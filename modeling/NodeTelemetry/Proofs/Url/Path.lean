import Mathlib.Data.List.Basic
import NodeTelemetry.Proofs.Text.Pieces
import NodeTelemetry.Url.Parser

/-!
# Segments of read URLs

No segment of a URL that is read holds a slash, so the written form of a path shows what its segments are. A special
URL always has segments. Both stay so when a URL is read relative to another one and when its scheme is changed.

## Main definitions

* `Url.IsWellFormed`: what holds of every URL that is read.

## Main statements

* `UrlPath.pieces_text`, `UrlPath.text_inj`: the segments in the written form of a path.
* `Url.isWellFormed_read`, `Url.IsWellFormed.withScheme`: URLs that are read, alone or below a base.
-/

namespace NodeTelemetry

/-! ### Written forms -/

namespace UrlPath

/-- Whether no segment of a path holds a slash. -/
def Slashless : UrlPath → Prop
  | opaqueText _ => True
  | segments ss => ∀ s ∈ ss, '/' ∉ s.toList

instance : DecidablePred Slashless
  | opaqueText _ => inferInstanceAs (Decidable True)
  | segments ss => inferInstanceAs (Decidable (∀ s ∈ ss, '/' ∉ s.toList))

theorem slashless_nil : (segments []).Slashless := fun _ h => nomatch h

theorem Slashless.of_subset {ss rest : List String} (h : (segments ss).Slashless) (hsubset : rest ⊆ ss) :
    (segments rest).Slashless := fun s hs => h s (hsubset hs)

theorem slashless_append {ss rest : List String} :
    (segments (ss ++ rest)).Slashless ↔ (segments ss).Slashless ∧ (segments rest).Slashless :=
  List.forall_mem_append

theorem slashless_singleton {s : String} : (segments [s]).Slashless ↔ '/' ∉ s.toList := by
  simp [Slashless]

theorem toList_text (ss : List String) : (segments ss).text.toList = ss.flatMap fun s => '/' :: s.toList := by
  simp only [text, String.toList_join, List.flatMap_map, String.toList_append]
  rfl

theorem text_append (ss rest : List String) :
    (segments (ss ++ rest)).text = (segments ss).text ++ (segments rest).text := by
  simp [← String.toList_inj, toList_text, String.toList_append]

theorem pieces_append_text {s : List Char} {ss : List String} (hs : '/' ∉ s) (h : (segments ss).Slashless) :
    Text.pieces '/' (s ++ (segments ss).text.toList) = s :: ss.map String.toList := by
  induction ss generalizing s with
  | nil =>
    rw [toList_text, List.flatMap_nil, List.append_nil]
    exact Text.pieces_of_not_mem hs
  | cons t rest ih =>
    have hrest := ih (h t (.head _)) fun r hr => h r (.tail _ hr)
    rw [toList_text] at hrest
    rw [toList_text, List.flatMap_cons, List.cons_append, Text.pieces_append hs, hrest, List.map_cons]

/-- The segments of a path stand between the slashes of its written form. -/
theorem pieces_text {ss : List String} (h : (segments ss).Slashless) :
    Text.pieces '/' (segments ss).text.toList = [] :: ss.map String.toList :=
  pieces_append_text List.not_mem_nil h

theorem text_inj {ss rest : List String} (h : (segments ss).Slashless) (hrest : (segments rest).Slashless) :
    (segments ss).text = (segments rest).text ↔ ss = rest := by
  refine ⟨fun htext => ?_, fun heq => heq ▸ rfl⟩
  have hpieces := pieces_text h
  rw [htext, pieces_text hrest] at hpieces
  exact (List.map_inj_right fun _ _ => String.toList_inj.1).1 (List.cons.inj hpieces).2.symm

/-- Behind the slash at its front, a path is its segments joined by slashes. -/
theorem toList_text_eq_cons {ss : List String} (hne : ss ≠ []) (h : (segments ss).Slashless) :
    (segments ss).text.toList = '/' :: ['/'].intercalate (ss.map String.toList) := by
  obtain ⟨s, rest, rfl⟩ := List.exists_cons_of_ne_nil hne
  rw [← Text.intercalate_pieces '/' (segments (s :: rest)).text.toList, pieces_text h, List.map_cons,
    List.intercalate_cons_cons]
  rfl

end UrlPath

namespace Url

/-- Every segment is free of slashes, and a special URL has segments. -/
structure IsWellFormed (u : Url) : Prop where
  slashless : u.path.Slashless
  segments_of_special : u.isSpecial = true → u.isOpaque = false

variable {u base : Url} {ss done : List String} {s path : List Char}

theorem isWellFormed_of_segments (hpath : u.path = .segments ss) (h : (UrlPath.segments ss).Slashless) :
    u.IsWellFormed where
  slashless := by rwa [hpath]
  segments_of_special := fun _ => by rw [isOpaque, hpath]

theorem IsWellFormed.exists_segments (h : u.IsWellFormed) (hspecial : u.isSpecial = true) :
    ∃ ss, u.path = .segments ss ∧ (UrlPath.segments ss).Slashless := by
  have hslashless := h.slashless
  have hopaque := h.segments_of_special hspecial
  rw [isOpaque] at hopaque
  cases hpath : u.path with
  | opaqueText path => simp [hpath] at hopaque
  | segments ss => exact ⟨ss, rfl, hpath ▸ hslashless⟩

theorem IsWellFormed.of_path (h : base.IsWellFormed) (hscheme : u.scheme = base.scheme) (hpath : u.path = base.path) :
    u.IsWellFormed where
  slashless := by
    rw [hpath]
    exact h.slashless
  segments_of_special := by
    rw [isSpecial, isOpaque, hscheme, hpath]
    exact h.segments_of_special

/-- The other scheme is special if the one before is. -/
theorem IsWellFormed.withScheme {scheme : String} {v : Url} (h : u.IsWellFormed) (hv : u.withScheme scheme = some v) :
    v.IsWellFormed := by
  rw [Url.withScheme] at hv
  split at hv
  · next hsame =>
    obtain rfl := Option.some.inj hv
    refine ⟨h.slashless, fun hspecial => h.segments_of_special ?_⟩
    rw [← hsame.1]
    exact hspecial
  · cases hv

/-! ### Segments of a path text -/

theorem upperHexDigit_ne_slash {n : Nat} (h : n < 16) : upperHexDigit n ≠ '/' := by
  revert n
  decide

theorem slash_not_mem_encode {set : EncodeSet} (h : '/' ∉ s) : '/' ∉ encode set s := by
  rw [encode, List.mem_flatMap]
  rintro ⟨c, hc, hmem⟩
  rw [encodeChar] at hmem
  split at hmem
  · exact h (List.mem_singleton.1 hmem ▸ hc)
  · obtain ⟨b, -, hb⟩ := List.mem_flatMap.1 hmem
    have hbyte : b.toNat < 256 := b.toNat_lt
    have hhigh := upperHexDigit_ne_slash (show b.toNat / 16 < 16 by omega)
    have hlow := upperHexDigit_ne_slash (show b.toNat % 16 < 16 by omega)
    simp [percentByte, hhigh.symm, hlow.symm] at hb

theorem slash_not_mem_splitSegments {special : Bool} : ∀ p ∈ splitSegments special s, '/' ∉ p := by
  induction s with
  | nil => simp [splitSegments]
  | cons c s ih =>
    rw [splitSegments]
    split
    · simpa using ih
    · next hslash =>
      have hc : c ≠ '/' := by
        rintro rfl
        simp [isSlash] at hslash
      split
      · simpa using hc.symm
      · next hparts =>
        rw [hparts] at ih
        simpa [hc.symm] using ih

theorem slash_not_mem_driveSegment {segment : String} (h : '/' ∉ segment.toList) :
    '/' ∉ (driveSegment segment).toList := by
  rw [driveSegment]
  split
  · rw [String.toList_ofList, List.mem_append]
    rintro (hmem | hmem)
    · exact h (List.mem_of_mem_take hmem)
    · simp at hmem
  · exact h

theorem slashless_leaveSegment (h : (UrlPath.segments done).Slashless) :
    (UrlPath.segments (leaveSegment done)).Slashless := by
  rw [leaveSegment]
  split
  · split
    · exact h
    · exact h.of_subset (List.dropLast_sublist done).subset
  · exact h

theorem slashless_addSegment {file : Bool} {segment : String} (h : (UrlPath.segments done).Slashless)
    (hsegment : '/' ∉ segment.toList) : (UrlPath.segments (addSegment file done segment)).Slashless := by
  rw [addSegment]
  split
  · exact UrlPath.slashless_singleton.2 (slash_not_mem_driveSegment hsegment)
  · exact UrlPath.slashless_append.2 ⟨h, UrlPath.slashless_singleton.2 hsegment⟩

theorem slashless_resolveSegments {file : Bool} (h : (UrlPath.segments done).Slashless)
    (hss : (UrlPath.segments ss).Slashless) : (UrlPath.segments (resolveSegments file done ss)).Slashless := by
  have hempty : (UrlPath.segments [""]).Slashless := by decide
  fun_induction resolveSegments file done ss with
  | case1 => exact h
  | case2 => exact UrlPath.slashless_append.2 ⟨slashless_leaveSegment h, hempty⟩
  | case3 => exact UrlPath.slashless_append.2 ⟨h, hempty⟩
  | case4 done last => exact slashless_addSegment h (hss last (.head _))
  | case5 done s rest _ _ ih => exact ih (slashless_leaveSegment h) (hss.of_subset (List.subset_cons_self s rest))
  | case6 done s rest _ _ _ ih => exact ih h (hss.of_subset (List.subset_cons_self s rest))
  | case7 done s rest _ _ _ ih =>
    exact ih (slashless_addSegment h (hss s (.head _))) (hss.of_subset (List.subset_cons_self s rest))

theorem slashless_rawSegments {scheme : String} (h : (UrlPath.segments done).Slashless) :
    (UrlPath.segments (rawSegments scheme done path)).Slashless := by
  refine slashless_resolveSegments h fun t ht => ?_
  obtain ⟨p, hp, rfl⟩ := List.mem_map.1 ht
  rw [String.toList_ofList]
  exact slash_not_mem_encode (slash_not_mem_splitSegments p hp)

theorem slashless_readSegments {scheme : String} (h : (UrlPath.segments done).Slashless) :
    (UrlPath.segments (readSegments scheme done path)).Slashless := by
  have hraw : (UrlPath.segments (rawSegments scheme done path)).Slashless := slashless_rawSegments h
  rw [readSegments]
  simp only [trimFilePath]
  split
  · split
    · decide
    · exact hraw.of_subset (List.dropWhile_sublist _).subset
  · exact hraw

theorem slashless_baseSegments {base : Option Url} (h : ∀ b ∈ base, b.IsWellFormed) :
    (UrlPath.segments (baseSegments base)).Slashless := by
  cases base with
  | none => exact UrlPath.slashless_nil
  | some b =>
    have hb := (h b rfl).slashless
    simp only [baseSegments]
    split
    · next heq => rwa [heq] at hb
    · exact UrlPath.slashless_nil

/-! ### Reading -/

theorem isWellFormed_afterSlashes {scheme : String} (h : afterSlashes scheme s = .ok u) : u.IsWellFormed := by
  have hpath : ∀ path, (UrlPath.segments (pathAfterAuthority scheme path)).Slashless := by
    intro path
    rw [pathAfterAuthority]
    split
    · exact slashless_readSegments UrlPath.slashless_nil
    · exact UrlPath.slashless_nil
  rw [afterSlashes] at h
  simp only [bind, Except.bind] at h
  -- every branch fails or ends in a URL with the path behind the authority
  repeat' split at h
  all_goals cases h
  all_goals exact isWellFormed_of_segments rfl (hpath _)

theorem isWellFormed_afterPlainScheme {scheme : String} (hscheme : isSpecialScheme scheme = false)
    (h : afterPlainScheme scheme s = .ok u) : u.IsWellFormed := by
  rw [afterPlainScheme.eq_def] at h
  split at h
  · exact isWellFormed_afterSlashes h
  · simp only at h
    obtain rfl := Except.ok.inj h
    refine ⟨?_, fun hspecial => ?_⟩
    · simp only
      split
      · exact slashless_readSegments UrlPath.slashless_nil
      · trivial
    · rw [isSpecial, hscheme] at hspecial
      cases hspecial

theorem isWellFormed_fileUrl (host : Option Host) (h : (UrlPath.segments done).Slashless) :
    (fileUrl host done path s).IsWellFormed :=
  isWellFormed_of_segments rfl (slashless_readSegments h)

theorem isWellFormed_fileAfterSlashes (h : fileAfterSlashes s = .ok u) : u.IsWellFormed := by
  rw [fileAfterSlashes] at h
  simp only [bind, Except.bind] at h
  repeat' split at h
  all_goals cases h
  all_goals exact isWellFormed_fileUrl _ UrlPath.slashless_nil

theorem slashless_dropLeaf (h : (UrlPath.segments done).Slashless) : (UrlPath.segments (dropLeaf done)).Slashless := by
  rw [dropLeaf]
  split
  · split
    · exact h
    · exact h.of_subset (List.dropLast_sublist done).subset
  · exact h

theorem isWellFormed_fileAfterSlash {base : Option Url} {host : Option Host} {front : List Char}
    (hbase : ∀ b ∈ base, b.IsWellFormed) (h : fileAfterScheme.fileAfterSlash base host front s = .ok u) :
    u.IsWellFormed := by
  rw [fileAfterScheme.fileAfterSlash] at h
  split at h
  · cases h
    exact isWellFormed_fileUrl _ UrlPath.slashless_nil
  · split at h
    · next first hfirst =>
      have hdrive : '/' ∉ first.toList := slashless_baseSegments hbase first (List.mem_of_head? hfirst)
      split at h
      · cases h
        exact isWellFormed_fileUrl _ (UrlPath.slashless_singleton.2 hdrive)
      · cases h
        exact isWellFormed_fileUrl _ UrlPath.slashless_nil
    · cases h
      exact isWellFormed_fileUrl _ UrlPath.slashless_nil

theorem isWellFormed_fileAfterScheme {base : Option Url} (hbase : ∀ b ∈ base, b.IsWellFormed)
    (h : fileAfterScheme base s = .ok u) : u.IsWellFormed := by
  rw [fileAfterScheme.eq_def] at h
  cases s with
  | nil =>
    cases base with
    | none =>
      cases h
      exact isWellFormed_fileUrl _ UrlPath.slashless_nil
    | some b =>
      cases h
      exact (hbase b rfl).of_path rfl rfl
  | cons c rest =>
    simp only at h
    split at h
    · split at h
      · split at h
        · exact isWellFormed_fileAfterSlashes h
        · exact isWellFormed_fileAfterSlash hbase h
      · exact isWellFormed_fileAfterSlash hbase h
    · cases base with
      | none =>
        cases h
        exact isWellFormed_fileUrl _ UrlPath.slashless_nil
      | some b =>
        -- a query, a fragment, a drive, or a path behind the folder of the base
        simp only at h
        repeat' split at h
        all_goals cases h
        · exact (hbase b rfl).of_path rfl rfl
        · exact (hbase b rfl).of_path rfl rfl
        · exact isWellFormed_fileUrl _ UrlPath.slashless_nil
        · exact isWellFormed_fileUrl _ (slashless_dropLeaf (slashless_baseSegments hbase))

theorem isWellFormed_relativeTo (hbase : base.IsWellFormed) (h : relativeTo base s = .ok u) : u.IsWellFormed := by
  have hsegments : (UrlPath.segments (baseSegments (some base))).Slashless :=
    slashless_baseSegments fun b hb => Option.mem_some.1 hb ▸ hbase
  rw [relativeTo.eq_def] at h
  simp only at h
  split at h
  · cases h
    exact hbase.of_path rfl rfl
  · cases h
    exact hbase.of_path rfl rfl
  · cases h
    exact hbase.of_path rfl rfl
  · split at h
    · split at h
      · split at h
        · exact isWellFormed_afterSlashes h
        · exact isWellFormed_afterSlashes h
      · cases h
        exact isWellFormed_of_segments rfl (slashless_readSegments UrlPath.slashless_nil)
    · cases h
      exact isWellFormed_of_segments rfl
        (slashless_readSegments (hsegments.of_subset (List.dropLast_sublist _).subset))

theorem isWellFormed_afterScheme {base : Option Url} {scheme : String} (hbase : ∀ b ∈ base, b.IsWellFormed)
    (h : afterScheme base scheme s = .ok u) : u.IsWellFormed := by
  rw [afterScheme] at h
  split at h
  · exact isWellFormed_fileAfterScheme (fun b hb => hbase b (Option.eq_some_of_filter_eq_some hb)) h
  · split at h
    · simp only at h
      split at h
      · split at h
        · exact isWellFormed_relativeTo (hbase _ rfl) h
        · exact isWellFormed_afterSlashes h
      · exact isWellFormed_afterSlashes h
    · next hplain => exact isWellFormed_afterPlainScheme (by simpa using hplain) h

/-- A URL that is read is well formed, if the one it is relative to is. -/
theorem isWellFormed_read {base : Option Url} {text : String} (hbase : ∀ b ∈ base, b.IsWellFormed)
    (h : read base text = .ok u) : u.IsWellFormed := by
  rw [read.eq_def] at h
  simp only at h
  split at h
  · exact isWellFormed_afterScheme hbase h
  · split at h
    · cases h
    · next b =>
      have hb := hbase b rfl
      split at h
      · cases h
        exact hb.of_path rfl rfl
      · split at h
        · cases h
        · split at h
          · exact isWellFormed_fileAfterScheme hbase h
          · exact isWellFormed_relativeTo hb h

theorem isWellFormed_parse {text : String} (h : parse text = .ok u) : u.IsWellFormed :=
  isWellFormed_read (fun _ hb => absurd hb (Option.not_mem_none _)) h

end Url

end NodeTelemetry
