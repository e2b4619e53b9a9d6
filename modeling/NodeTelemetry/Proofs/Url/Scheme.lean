import NodeTelemetry.Locator
import NodeTelemetry.Url.Parser

/-!
# Schemes of read URLs

A text that begins with one of the two schemes of the web and a colon is read as a URL of that scheme, whatever comes
behind. The written form of a URL begins with its scheme, so the scheme is not lost when a URL is written and read.

## Main definitions

* `Url.IsWebScheme`: the schemes of the web.

## Main statements

* `Url.scheme_parse`: the scheme at the front of a text.
* `Url.scheme_parse_text`: the scheme of a URL that is written and read.
-/

namespace NodeTelemetry.Url

/-- The schemes of the web. -/
def IsWebScheme (scheme : String) : Prop := scheme = "http" ∨ scheme = "https"

theorem IsWebScheme.isSpecial {scheme : String} (h : IsWebScheme scheme) : isSpecialScheme scheme = true := by
  rcases h with rfl | rfl <;> decide

theorem IsWebScheme.ne_file {scheme : String} (h : IsWebScheme scheme) : scheme ≠ "file" := by
  rcases h with rfl | rfl <;> decide

theorem IsWebScheme.map_toLower {scheme : String} (h : IsWebScheme scheme) :
    scheme.toList.map Char.toLower = scheme.toList := by
  rcases h with rfl | rfl <;> decide

/-! ### Cleaning -/

/-- What is dropped at the end of a text is dropped behind a character that stays. -/
theorem dropWhile_reverse_append {p : Char → Bool} {front : List Char} {c : Char} (hc : p c = false)
    (s : List Char) : ((front ++ c :: s).reverse.dropWhile p).reverse =
      front ++ c :: (s.reverse.dropWhile p).reverse := by
  have hreverse : (front ++ c :: s).reverse = s.reverse ++ c :: front.reverse := by simp
  rw [hreverse, List.dropWhile_append]
  split
  · next hempty =>
    rw [List.isEmpty_iff.1 hempty, List.dropWhile_cons, if_neg (by simp [hc])]
    simp
  · simp

/-- Whether a character inside a text counts. -/
def counts (c : Char) : Bool := c ≠ '\t' && c ≠ '\n' && c ≠ '\r'

/-- What counts of the end of a text. -/
def cleanEnd (s : List Char) : List Char :=
  (s.reverse.dropWhile fun c => c.toNat ≤ 0x20).reverse.filter counts

theorem counts_of_lt {c : Char} (h : 0x20 < c.toNat) : counts c = true := by
  simp only [counts, Bool.and_eq_true, decide_eq_true_eq]
  refine ⟨⟨?_, ?_⟩, ?_⟩ <;> rintro rfl <;> exact absurd h (by decide)

/-- Between two characters that stay, only tabs and line ends are dropped. -/
theorem clean_append {first last : Char} {more init : List Char} (tail : List Char) (hfirst : 0x20 < first.toNat)
    (hlast : 0x20 < last.toNat) (hfront : first :: more = init ++ [last]) :
    clean (first :: more ++ tail) = (first :: more).filter counts ++ cleanEnd tail := by
  have hstart : (first :: more ++ tail).dropWhile (fun c => c.toNat ≤ 0x20) = first :: more ++ tail := by
    rw [List.cons_append, List.dropWhile_cons, if_neg (by simpa using hfirst)]
  have hend : ((init ++ last :: tail).reverse.dropWhile fun c => c.toNat ≤ 0x20).reverse =
      init ++ last :: (tail.reverse.dropWhile fun c => c.toNat ≤ 0x20).reverse :=
    dropWhile_reverse_append (by simpa using hlast) tail
  rw [clean]
  simp only [hstart]
  rw [hfront, List.append_assoc, List.singleton_append, hend, ← List.singleton_append, ← List.append_assoc,
    List.filter_append]
  rfl

/-- The front of a text stays up to a colon, if it has no blanks and no controls. -/
theorem exists_clean (front : List Char) (hfront : front.all (fun c => 0x20 < c.toNat) = true) (s : List Char) :
    ∃ rest, clean (front ++ ':' :: s) = front ++ ':' :: rest := by
  have hall : ∀ c ∈ front ++ [':'], 0x20 < c.toNat := by
    intro c hc
    rcases List.mem_append.1 hc with hc | hc
    · exact of_decide_eq_true (List.all_eq_true.1 hfront c hc)
    · obtain rfl := List.mem_singleton.1 hc
      decide
  have hkept : (front ++ [':']).filter counts = front ++ [':'] :=
    List.filter_eq_self.2 fun c hc => counts_of_lt (hall c hc)
  obtain ⟨first, more, hparts⟩ := List.exists_cons_of_ne_nil (show front ++ [':'] ≠ [] by simp)
  have hcleaned := clean_append s (hall first (by simp [hparts])) (by decide) hparts.symm
  rw [← hparts, hkept] at hcleaned
  exact ⟨cleanEnd s, by simpa using hcleaned⟩

theorem cutScheme_append {c : Char} {more : List Char} (hc : c.isAlpha = true)
    (hname : (c :: more).all isSchemeChar = true) (rest : List Char) :
    cutScheme (c :: more ++ ':' :: rest) = some (String.ofList ((c :: more).map Char.toLower), rest) := by
  rw [List.all_eq_true] at hname
  have htake : (c :: more ++ ':' :: rest).takeWhile isSchemeChar = c :: more := by
    rw [List.takeWhile_append_of_pos hname]
    simp [isSchemeChar]
  have hdrop : (c :: more ++ ':' :: rest).dropWhile isSchemeChar = ':' :: rest := by
    rw [List.dropWhile_append_of_pos hname]
    simp [isSchemeChar]
  rw [List.cons_append] at htake hdrop ⊢
  rw [cutScheme]
  simp only [hc, if_true, htake, hdrop]

/-- A text with a scheme of the web at its front is cut behind that scheme. -/
theorem exists_cutScheme {scheme : String} (h : IsWebScheme scheme) (rest : String) :
    ∃ after, cutScheme (clean (scheme ++ ":" ++ rest).toList) = some (scheme, after) := by
  have htext : (scheme ++ ":" ++ rest).toList = scheme.toList ++ ':' :: rest.toList := by
    simp [String.toList_append]
  rw [htext]
  rcases h with rfl | rfl
  · obtain ⟨after, hclean⟩ := exists_clean "http".toList (by decide) rest.toList
    exact ⟨after, by rw [hclean]; exact cutScheme_append (by decide) (by decide) after⟩
  · obtain ⟨after, hclean⟩ := exists_clean "https".toList (by decide) rest.toList
    exact ⟨after, by rw [hclean]; exact cutScheme_append (by decide) (by decide) after⟩

/-! ### Reading -/

theorem scheme_afterSlashes {scheme : String} {s : List Char} {u : Url} (h : afterSlashes scheme s = .ok u) :
    u.scheme = scheme := by
  rw [afterSlashes] at h
  simp only [bind, Except.bind] at h
  -- every branch fails or ends in a URL of the scheme
  repeat' split at h
  all_goals cases h
  all_goals rfl

/-- A text that begins with a scheme of the web gives a URL of that scheme. -/
theorem scheme_parse {scheme rest : String} {u : Url} (hscheme : IsWebScheme scheme)
    (h : parse (scheme ++ ":" ++ rest) = .ok u) : u.scheme = scheme := by
  obtain ⟨after, hcut⟩ := exists_cutScheme hscheme rest
  rw [parse, read] at h
  simp only [hcut, afterScheme, if_neg hscheme.ne_file, if_pos hscheme.isSpecial] at h
  exact scheme_afterSlashes h

/-- A URL of the web keeps its scheme when it is written and read. -/
theorem scheme_parse_text {u v : Url} (hscheme : IsWebScheme u.scheme) (h : parse u.text = .ok v) :
    v.scheme = u.scheme := by
  have htext : u.text = u.scheme ++ ":" ++ (u.authorityText ++ u.path.text ++ markedText "?" u.query ++
      markedText "#" u.fragment) := by
    simp [text, String.append_assoc]
  rw [htext] at h
  exact scheme_parse hscheme h

end NodeTelemetry.Url
