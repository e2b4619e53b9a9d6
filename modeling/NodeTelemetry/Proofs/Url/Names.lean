import NodeTelemetry.Proofs.Url.Address
import NodeTelemetry.Proofs.Url.Leaf
import NodeTelemetry.Proofs.Url.Path

/-!
# Paths of plain names

Names of letters, digits, hyphens and underscores with single slashes between them are a path below any URL: they
are no scheme, no drive and no mark, they do not point to a parent, and nothing in them is encoded. Relative to a URL,
they stand behind its folder.

## Main definitions

* `Url.PlainNames`: the names of such a path.
* `Url.namesText`: the path.
* `Url.folder`: the segments of a path without an empty one at the end.

## Main statements

* `Url.PlainNames.isBelow`: the path is read below a URL.
* `Url.PlainNames.readSegments_namesText`: its segments are the names.
* `Url.PlainNames.join_eq`: the URL of the path below another one.
* `Url.withSlash_eq`: the URL with a slash at the end of its path.
-/

namespace NodeTelemetry.Url

variable {s : List Char} {special : Bool}

/-! ### Texts that stay as they are -/

theorem clean_eq_self (h : ∀ c ∈ s, 0x20 < c.toNat) : clean s = s := by
  have hedges {t : List Char} (ht : ∀ c ∈ t, 0x20 < c.toNat) : (t.dropWhile fun c => c.toNat ≤ 0x20) = t := by
    cases t with
    | nil => rfl
    | cons c t => rw [List.dropWhile_cons, if_neg (by simpa using ht c (.head _))]
  have hkept : s.filter counts = s := List.filter_eq_self.2 fun c hc => counts_of_lt (h c hc)
  rw [clean]
  simp only [hedges h]
  rw [hedges fun c hc => h c (List.mem_reverse.1 hc), List.reverse_reverse]
  exact hkept

theorem cutScheme_eq_none (h : ':' ∉ s) : cutScheme s = none := by
  cases s with
  | nil => rfl
  | cons c rest =>
    rw [cutScheme]
    split
    · simp only
      split
      · next hcolon => exact absurd ((List.dropWhile_sublist _).subset (hcolon ▸ List.mem_cons_self)) h
      · rfl
    · rfl

theorem startsWithDrive_eq_false (hcolon : ':' ∉ s) (hbar : '|' ∉ s) : startsWithDrive s = false := by
  have hloose : isLooseDrive (String.ofList (s.take 2)) = false := by
    rw [isLooseDrive, String.toList_ofList]
    split
    · next c d hpair =>
      have hd : d ∈ s.take 2 := by simp [hpair]
      replace hd := List.mem_of_mem_take hd
      simp [isDriveName, ne_of_mem_of_not_mem hd hcolon, ne_of_mem_of_not_mem hd hbar]
    · rfl
  rw [startsWithDrive, hloose, Bool.false_and]

theorem dropWhile_marks (hquery : '?' ∉ s) (hfragment : '#' ∉ s) : (s.dropWhile fun c => c ≠ '?' && c ≠ '#') = [] :=
  List.dropWhile_eq_nil_iff.2 fun c hc => by
    simp [ne_of_mem_of_not_mem hc hquery, ne_of_mem_of_not_mem hc hfragment]

theorem beforeTail_eq_self (hquery : '?' ∉ s) (hfragment : '#' ∉ s) : beforeTail s = s := by
  have hsplit := List.takeWhile_append_dropWhile (p := fun c => c ≠ '?' && c ≠ '#') (l := s)
  rwa [dropWhile_marks hquery hfragment, List.append_nil] at hsplit

theorem readTail_eq_none (hquery : '?' ∉ s) (hfragment : '#' ∉ s) : readTail special s = (none, none) := by
  rw [readTail, dropWhile_marks hquery hfragment]

theorem splitSegments_eq_pieces (h : '\\' ∉ s) : splitSegments special s = Text.pieces '/' s := by
  induction s with
  | nil => rfl
  | cons c s ih =>
    simp only [List.mem_cons, not_or] at h
    have hslash : isSlash special c = true ↔ c = '/' := by simp [isSlash, Ne.symm h.1]
    obtain ⟨t, ts, hpieces⟩ := List.exists_cons_of_ne_nil (Text.pieces_ne_nil '/' s)
    simp only [splitSegments, Text.pieces, ih h.2, hslash, hpieces]

theorem encode_eq_self {set : EncodeSet} (h : ∀ c ∈ s, encodeChar set c = [c]) : encode set s = s := by
  rw [encode, List.flatMap_congr h]
  simp

/-- Segments that stand for themselves are put behind those that are there. -/
theorem resolveSegments_eq_append {ss : List String} (h : ∀ t ∈ ss, isParent t = false ∧ isSelf t = false)
    (done : List String) : resolveSegments false done ss = done ++ ss := by
  fun_induction resolveSegments false done ss with
  | case1 => simp
  | case2 done last hparent => simp [(h last (.head _)).1] at hparent
  | case3 done last _ hself => simp [(h last (.head _)).2] at hself
  | case4 => rfl
  | case5 done t rest _ hparent => simp [(h t (.head _)).1] at hparent
  | case6 done t rest _ _ hself => simp [(h t (.head _)).2] at hself
  | case7 done t rest _ _ _ ih =>
    rw [ih fun r hr => h r (.tail _ hr)]
    simp [addSegment]

/-! ### Names -/

def isNameChar (c : Char) : Bool := c.isAlphanum || c == '-' || c == '_'

def nameChars : List Char := "ABCDEFGHIJKLMNOPQRSTUVWXYZabcdefghijklmnopqrstuvwxyz0123456789-_".toList

theorem mem_nameChars {c : Char} (h : isNameChar c = true) : c ∈ nameChars := by
  have hupper : (List.range' 65 26).map Char.ofNat ⊆ nameChars := by decide +kernel
  have hlower : (List.range' 97 26).map Char.ofNat ⊆ nameChars := by decide +kernel
  have hdigit : (List.range' 48 10).map Char.ofNat ⊆ nameChars := by decide +kernel
  simp only [isNameChar, Char.isAlphanum, Char.isAlpha, Char.isUpper, Char.isLower, Char.isDigit, Bool.or_eq_true,
    Bool.and_eq_true, decide_eq_true_eq, beq_iff_eq, ge_iff_le] at h
  rcases h with (((h | h) | h) | rfl) | rfl
  · exact hupper (mem_map_range' h.1 (Nat.lt_succ_of_le h.2))
  · exact hlower (mem_map_range' h.1 (Nat.lt_succ_of_le h.2))
  · exact hdigit (mem_map_range' h.1 (Nat.lt_succ_of_le h.2))
  · decide +kernel
  · decide +kernel

/-- A character that is never more than a part of a segment: it is no blank and is not encoded, nothing ends or begins
with it, and no segment that points somewhere begins with it. -/
structure IsInert (c : Char) : Prop where
  lt_toNat : 0x20 < c.toNat
  encodeChar_eq : encodeChar EncodeSet.path c = [c]
  not_mark : c ∉ "/\\?#:|".toList
  not_pointing : c.toLower ∉ ".%".toList

theorem isInert_of_isNameChar {c : Char} (h : isNameChar c = true) : IsInert c := by
  have hall : ∀ d ∈ nameChars, 0x20 < d.toNat ∧ encodeChar EncodeSet.path d = [d] ∧
      d ∉ "/\\?#:|".toList ∧ d.toLower ∉ ".%".toList := by
    rw [← List.all_iff_forall_prop]
    decide +kernel
  obtain ⟨hvisible, hencode, hmark, hpointing⟩ := hall c (mem_nameChars h)
  exact ⟨hvisible, hencode, hmark, hpointing⟩

/-- Names that make up a path. -/
structure PlainNames (names : List (List Char)) : Prop where
  ne_nil : names ≠ []
  name_ne_nil : ∀ s ∈ names, s ≠ []
  isNameChar : ∀ s ∈ names, ∀ c ∈ s, isNameChar c = true

instance : DecidablePred PlainNames := fun names =>
  decidable_of_iff (names ≠ [] ∧ names.all (fun s => decide (s ≠ []) && s.all Url.isNameChar) = true) (by
    simp only [List.all_eq_true, Bool.and_eq_true, decide_eq_true_iff]
    exact ⟨fun ⟨h, hall⟩ => ⟨h, fun s hs => (hall s hs).1, fun s hs => (hall s hs).2⟩,
      fun h => ⟨h.ne_nil, fun s hs => ⟨h.name_ne_nil s hs, h.isNameChar s hs⟩⟩⟩)

/-- The names with single slashes between them. -/
def namesText (names : List (List Char)) : List Char := ['/'].intercalate names

namespace PlainNames

variable {names : List (List Char)} {c : Char}

theorem isInert (h : PlainNames names) (hs : s ∈ names) (hc : c ∈ s) : IsInert c :=
  isInert_of_isNameChar (h.isNameChar s hs c hc)

theorem slash_not_mem (h : PlainNames names) (hs : s ∈ names) : '/' ∉ s := fun hc =>
  (h.isInert hs hc).not_mark (by decide)

theorem pieces_namesText (h : PlainNames names) : Text.pieces '/' (namesText names) = names :=
  Text.pieces_intercalate h.ne_nil fun _ hs => h.slash_not_mem hs

theorem lt_toNat (h : PlainNames names) (hc : c ∈ namesText names) : 0x20 < c.toNat := by
  by_cases hslash : c = '/'
  · rw [hslash]
    decide
  · rw [Text.mem_iff_pieces hslash, h.pieces_namesText] at hc
    obtain ⟨s, hs, hc⟩ := hc
    exact (h.isInert hs hc).lt_toNat

/-- The path has none of the characters with which something else begins than a segment. -/
theorem not_mem_namesText (h : PlainNames names) (hc : c ∈ "\\?#:|".toList) : c ∉ namesText names := by
  have hslash : c ≠ '/' := by
    rintro rfl
    exact absurd hc (by decide)
  have hmarks : "\\?#:|".toList ⊆ "/\\?#:|".toList := by decide
  rw [Text.mem_iff_pieces hslash, h.pieces_namesText]
  rintro ⟨s, hs, hmem⟩
  exact (h.isInert hs hmem).not_mark (hmarks hc)

theorem splitSegments_namesText (h : PlainNames names) (special : Bool) :
    splitSegments special (namesText names) = names :=
  (splitSegments_eq_pieces (h.not_mem_namesText (by decide))).trans h.pieces_namesText

theorem encode_name (h : PlainNames names) (hs : s ∈ names) : encode EncodeSet.path s = s :=
  encode_eq_self fun _ hc => (h.isInert hs hc).encodeChar_eq

/-- A name does not point anywhere, as the segments that do begin with a dot or a percent sign. -/
theorem stands (h : PlainNames names) (hs : s ∈ names) :
    isParent (String.ofList s) = false ∧ isSelf (String.ofList s) = false := by
  obtain ⟨c, rest, rfl⟩ := List.exists_cons_of_ne_nil (h.name_ne_nil s hs)
  have hother {ts : List String} (hts : ts.all (fun t => t.toList.head?.any (".%".toList.contains ·)) = true) :
      ts.contains (String.ofList ((String.ofList (c :: rest)).toList.map Char.toLower)) = false := by
    rw [← Bool.not_eq_true, List.contains_iff_mem]
    intro hmem
    have hpoints := List.all_eq_true.1 hts _ hmem
    simp only [String.toList_ofList, List.map_cons, List.head?_cons, Option.any_some] at hpoints
    exact (h.isInert hs (.head _)).not_pointing (List.contains_iff_mem.1 hpoints)
  exact ⟨hother (by decide), hother (by decide)⟩

theorem readSegments_namesText (h : PlainNames names) {scheme : String} (hscheme : scheme ≠ "file")
    (done : List String) : readSegments scheme done (namesText names) = done ++ names.map String.ofList := by
  have hencoded : (names.map fun s => String.ofList (encode EncodeSet.path s)) = names.map String.ofList :=
    List.map_congr_left fun _ hs => congrArg String.ofList (h.encode_name hs)
  have hstands : ∀ t ∈ names.map String.ofList, isParent t = false ∧ isSelf t = false := by
    intro t ht
    obtain ⟨s, hs, rfl⟩ := List.mem_map.1 ht
    exact h.stands hs
  have hraw : rawSegments scheme done (namesText names) = done ++ names.map String.ofList := by
    rw [rawSegments, h.splitSegments_namesText, hencoded, beq_eq_false_iff_ne.2 hscheme]
    exact resolveSegments_eq_append hstands done
  simp [readSegments, hraw, hscheme]

theorem beforeTail_namesText (h : PlainNames names) : beforeTail (namesText names) = namesText names :=
  beforeTail_eq_self (h.not_mem_namesText (by decide)) (h.not_mem_namesText (by decide))

/-- The path begins with the first character of a name. -/
theorem exists_head (h : PlainNames names) : ∃ s ∈ names, ∃ c ∈ s, (namesText names).head? = some c := by
  obtain ⟨s, more, rfl⟩ := List.exists_cons_of_ne_nil h.ne_nil
  obtain ⟨c, rest, rfl⟩ := List.exists_cons_of_ne_nil (h.name_ne_nil s (.head _))
  refine ⟨c :: rest, .head _, c, .head _, ?_⟩
  cases more with
  | nil => rw [namesText, List.intercalate_singleton, List.head?_cons]
  | cons t ts => rw [namesText, List.intercalate_cons_cons, List.cons_append, List.cons_append, List.head?_cons]

theorem isBelow (h : PlainNames names) :
    IsBelow (namesText names) (String.ofList (names.getLast h.ne_nil)) where
  clean_eq := clean_eq_self fun _ hc => h.lt_toNat hc
  no_scheme := cutScheme_eq_none (h.not_mem_namesText (by decide))
  no_mark := by
    obtain ⟨s, hs, c, hc, hhead⟩ := h.exists_head
    have hmarks : "?#/\\".toList ⊆ "/\\?#:|".toList := by decide
    rw [hhead, Option.any_some, decide_eq_true_iff]
    exact fun hmem => (h.isInert hs hc).not_mark (hmarks hmem)
  no_drive := startsWithDrive_eq_false (h.not_mem_namesText (by decide)) (h.not_mem_namesText (by decide))
  segments := fun special => by
    rw [h.beforeTail_namesText, h.splitSegments_namesText, List.getLast?_map, List.getLast?_eq_some_getLast h.ne_nil,
      Option.map_some, h.encode_name (List.getLast_mem _)]
  not_parent := (h.stands (List.getLast_mem _)).1
  not_self := (h.stands (List.getLast_mem _)).2

end PlainNames

/-! ### Below a URL -/

/-- Below a URL, the names stand in the place of its last segment, and nothing else of it changes but that its query
and its fragment are gone. -/
theorem PlainNames.join_eq {names : List (List Char)} (h : PlainNames names) (base : Url)
    (hsegments : base.isOpaque = false) (hscheme : base.scheme ≠ "file") :
    base.join (String.ofList (namesText names)) = .ok { base with
      path := .segments ((baseSegments (some base)).dropLast ++ names.map String.ofList)
      query := none
      fragment := none } := by
  have hbelow : IsBelow (String.ofList (namesText names)).toList (String.ofList (names.getLast h.ne_nil)) := by
    rw [String.toList_ofList]
    exact h.isBelow
  have htail : readTail base.isSpecial (namesText names) = (none, none) :=
    readTail_eq_none (h.not_mem_namesText (by decide)) (h.not_mem_namesText (by decide))
  rw [Url.join_eq hbelow hsegments hscheme, relativeTo_eq hbelow]
  simp only [String.toList_ofList]
  rw [htail, h.beforeTail_namesText, h.readSegments_namesText hscheme]

/-- The segments of a path without an empty one at the end. -/
def folder (ss : List String) : List String := if ss.getLast? = some "" then ss.dropLast else ss

theorem withSlash_eq {u : Url} {ss : List String} (hpath : u.path = .segments ss) (hscheme : u.scheme ≠ "file") :
    u.withSlash = { u with path := .segments (folder ss ++ [""]) } := by
  rw [withSlash, hpath]
  simp only [folder]
  split
  · next hlast => rw [List.dropLast_append_getLast? "" hlast, ← hpath]
  · cases ss with
    | nil => rfl
    | cons first rest => simp [segmentsWithSlash, hscheme]

end NodeTelemetry.Url
