import NodeTelemetry.SourceClient

/-!
# The last segment of a request

A path that is asked for below an endpoint gives a URL whose last segment is the last one of the path, whatever the
endpoint is. So a request shows which document it is for. Only the URLs of files are left out, and these are
never requested.

## Main definitions

* `Url.leaf?`: the last segment of a URL.
* `SourceClient.PathLeaf`: the last segment of a path.

## Main statements

* `Url.leaf?_join`: the last segment of a URL relative to a base.
* `SourceClient.leaf?_requestUrl`: the last segment of a request.
-/

namespace NodeTelemetry

namespace Url

/-- The last segment of a URL. -/
def leaf? (u : Url) : Option String :=
  match u.path with
  | .segments ss => ss.getLast?
  | .opaqueText _ => none

/-- A segment that stands for itself stays at the end of a path. -/
theorem getLast?_resolveSegments (done front : List String) {last : String}
    (hparent : isParent last = false) (hself : isSelf last = false) :
    (resolveSegments false done (front ++ [last])).getLast? = some last := by
  induction front generalizing done with
  | nil => simp [resolveSegments, hparent, hself, addSegment]
  | cons s rest ih =>
    -- the segment is not the last one, so it takes one of the branches that go on
    cases hrest : rest ++ [last] with
    | nil => simp at hrest
    | cons t more =>
      rw [List.cons_append, hrest, resolveSegments]
      · rw [← hrest]
        split
        · exact ih _
        · split <;> exact ih _
      · simp

/-- A text that is read as a path below a base: it has no scheme, does not begin with a mark or a slash, and its last
segment stands for itself. -/
structure IsBelow (text : List Char) (last : String) : Prop where
  clean_eq : clean text = text
  no_scheme : cutScheme text = none
  no_mark : text.head?.any (fun c => c ∉ "?#/\\".toList) = true
  no_drive : startsWithDrive text = false
  segments : ∀ special, ((splitSegments special (beforeTail text)).map fun s =>
    String.ofList (encode EncodeSet.path s)).getLast? = some last
  not_parent : isParent last = false
  not_self : isSelf last = false

instance (text : List Char) (last : String) : Decidable (IsBelow text last) :=
  decidable_of_iff
    (clean text = text ∧ cutScheme text = none ∧
      text.head?.any (fun c => c ∉ "?#/\\".toList) = true ∧ startsWithDrive text = false ∧
      (∀ special, ((splitSegments special (beforeTail text)).map fun s =>
        String.ofList (encode EncodeSet.path s)).getLast? = some last) ∧
      isParent last = false ∧ isSelf last = false)
    ⟨fun ⟨h₁, h₂, h₃, h₄, h₅, h₆, h₇⟩ => ⟨h₁, h₂, h₃, h₄, h₅, h₆, h₇⟩,
      fun h => ⟨h.1, h.2, h.3, h.4, h.5, h.6, h.7⟩⟩

theorem IsBelow.head {text : List Char} {last : String} (h : IsBelow text last) :
    ∃ c rest, text = c :: rest ∧ c ≠ '?' ∧ c ≠ '#' ∧ c ≠ '/' ∧ c ≠ '\\' := by
  have hmark := h.no_mark
  cases text with
  | nil => simp at hmark
  | cons c rest => exact ⟨c, rest, rfl, by simpa using hmark⟩

variable {text last : String} {base u : Url}

/-- A path below a base is read behind the folder of the base. The query and the fragment of the base are dropped. -/
theorem relativeTo_eq (h : IsBelow text.toList last) :
    relativeTo base text.toList = .ok { base with
      path := .segments (readSegments base.scheme (baseSegments (some base)).dropLast (beforeTail text.toList))
      query := (readTail base.isSpecial text.toList).1
      fragment := (readTail base.isSpecial text.toList).2 } := by
  obtain ⟨c, rest, htext, hquery, hfragment, hslash, hback⟩ := h.head
  rw [htext, relativeTo]
  simp [hslash, hback]

theorem leaf?_relativeTo (h : IsBelow text.toList last) (hscheme : base.scheme ≠ "file")
    (hu : relativeTo base text.toList = .ok u) : u.leaf? = some last := by
  obtain ⟨front, hfront⟩ := List.getLast?_eq_some_iff.1 (h.segments base.isSpecial)
  rw [relativeTo_eq h] at hu
  obtain rfl := Except.ok.inj hu
  simp only [leaf?, readSegments, rawSegments, beq_eq_false_iff_ne.2 hscheme]
  rw [show isSpecialScheme base.scheme = base.isSpecial from rfl, hfront]
  exact getLast?_resolveSegments _ front h.not_parent h.not_self

/-- Relative to a URL with segments that is no file, a path below it is read as one. -/
theorem join_eq (h : IsBelow text.toList last) (hsegments : base.isOpaque = false) (hscheme : base.scheme ≠ "file") :
    base.join text = relativeTo base text.toList := by
  obtain ⟨c, rest, htext, -, hfragment, -, -⟩ := h.head
  have hhead : (text.toList.head? = some '#') = False := by simp [htext, hfragment]
  simp only [join, read, h.clean_eq, h.no_scheme, hhead, hsegments, hscheme, Bool.false_eq_true, if_false]

theorem scheme_fileAfterScheme (h : IsBelow text.toList last)
    (hu : fileAfterScheme (some base) text.toList = .ok u) : u.scheme = "file" := by
  obtain ⟨c, rest, htext, hquery, hfragment, hslash, hback⟩ := h.head
  rw [fileAfterScheme.eq_def] at hu
  split at hu
  · next d more heq =>
    obtain rfl : d = c := by
      rw [htext] at heq
      exact (List.cons.inj heq).1.symm
    rw [if_neg (by simp [isSlash, hslash, hback])] at hu
    simp only [if_neg hquery, if_neg hfragment, h.no_drive] at hu
    obtain rfl := Except.ok.inj hu
    rfl
  · next heq => simp [htext] at heq

/-- A path below a base gives a URL with the last segment of the path, or the URL of a file. -/
theorem leaf?_join (h : IsBelow text.toList last) (hu : base.join text = .ok u) :
    u.leaf? = some last ∨ u.scheme = "file" := by
  obtain ⟨c, rest, htext, -, hfragment, -, -⟩ := h.head
  simp only [join, read, h.clean_eq, h.no_scheme] at hu
  rw [if_neg (by simp [htext, hfragment])] at hu
  split at hu
  -- a base without segments has no relative URLs
  · cases hu
  · split at hu
    · exact .inr (scheme_fileAfterScheme h hu)
    · next hscheme => exact .inl (leaf?_relativeTo h hscheme hu)

end Url

namespace SourceClient

/-- A path whose part behind the slashes at its front is read below any endpoint, with its last segment. -/
def PathLeaf (path last : String) : Prop :=
  Url.IsBelow (path.toList.dropWhile (· = '/')) last

instance (path last : String) : Decidable (PathLeaf path last) :=
  inferInstanceAs (Decidable (Url.IsBelow _ _))

/-- The last segment of a request is the last segment of its path. -/
theorem leaf?_requestUrl {c : SourceClient} {path last : String} {u : Url}
    (h : PathLeaf path last) (hu : c.requestUrl path = .ok u) :
    u.leaf? = some last ∨ u.scheme = "file" := by
  cases hjoin : c.endpoint.url.withSlash.join
      (String.ofList (path.toList.dropWhile (· = '/'))) with
  | error e =>
    rw [requestUrl, hjoin] at hu
    cases hu
  | ok joined =>
    simp only [requestUrl, hjoin] at hu
    obtain rfl := Except.ok.inj hu
    exact Url.leaf?_join (by rwa [String.toList_ofList]) hjoin

end SourceClient

end NodeTelemetry
