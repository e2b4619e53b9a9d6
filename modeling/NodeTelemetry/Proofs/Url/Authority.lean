import Mathlib
import NodeTelemetry.Proofs.Decimal.Digits
import NodeTelemetry.Proofs.Text.Pieces
import NodeTelemetry.Proofs.Url.Scheme

/-!
# Authorities with a port

A text in which a host is followed by a colon and by digits is read as a URL with that host, and requests go to the port
that the digits spell. The port of the scheme is dropped when it is read, and it is still the port to which requests
go. Credentials before the host and whatever comes behind the digits change nothing of this.

## Main definitions

* `Url.Authority`: a host with a port, as it is written.
* `Url.portOf`: the port that a URL keeps.

## Main statements

* `Url.Authority.afterSlashes_eq`: how an authority with a port is read.
* `Url.Authority.parse_eq`: a text with a scheme of the web before an authority.
* `Url.Authority.port_of_parse`: the port that is read.
* `Locator.urlOf_eq`: the URL of a host and a port.
-/

namespace NodeTelemetry

namespace Url

/-! ### Hosts before a port -/

/-- Whether a character ends an authority. -/
def endsAuthority (c : Char) : Bool := "/\\?#".toList.contains c

/-- Whether a character may stand in the text of a host without a meaning of its own, apart from the colon, which has
none in brackets. -/
def isHostChar (c : Char) : Bool := !endsAuthority c && !"@[]".toList.contains c

/-- The text of a host as it stands before a port. -/
inductive IsHostText : List Char → Prop
  | name {s : List Char} (h : ∀ c ∈ s, isHostChar c = true ∧ c ≠ ':') : IsHostText s
  | bracketed {s : List Char} (h : ∀ c ∈ s, isHostChar c = true) : IsHostText ('[' :: (s ++ [']']))

variable {s rest tail : List Char} {scheme : String}

theorem endsAuthority_eq_true_iff {c : Char} :
    endsAuthority c = true ↔ c = '/' ∨ c = '\\' ∨ c = '?' ∨ c = '#' := by
  simp [endsAuthority]

theorem endsAuthority_eq_false_iff {c : Char} :
    endsAuthority c = false ↔ c ≠ '/' ∧ c ≠ '\\' ∧ c ≠ '?' ∧ c ≠ '#' := by
  simp [endsAuthority]

theorem endsAuthority_of_isDigit {c : Char} (h : c.isDigit = true) : endsAuthority c = false := by
  rw [endsAuthority_eq_false_iff]
  refine ⟨?_, ?_, ?_, ?_⟩ <;> rintro rfl <;> simp at h

theorem isHostChar_iff {c : Char} :
    isHostChar c = true ↔ endsAuthority c = false ∧ c ≠ '@' ∧ c ≠ '[' ∧ c ≠ ']' := by
  simp [isHostChar]

theorem beforeTail_append (h : ∀ c ∈ s, endsAuthority c = false) (rest : List Char) :
    beforeTail (s ++ rest) = s ++ beforeTail rest := by
  refine List.takeWhile_append_of_pos fun c hc => ?_
  obtain ⟨-, -, hquery, hfragment⟩ := endsAuthority_eq_false_iff.1 (h c hc)
  simp [hquery, hfragment]

theorem isSlash_of_endsAuthority {c : Char} (h : endsAuthority c = false) : isSlash true c = false := by
  obtain ⟨hslash, hback, -⟩ := endsAuthority_eq_false_iff.1 h
  simp [isSlash, hslash, hback]

theorem dropWhile_isSlash_append (hne : s ≠ []) (h : ∀ c ∈ s, endsAuthority c = false) (rest : List Char) :
    (s ++ rest).dropWhile (isSlash true) = s ++ rest := by
  obtain ⟨c, more, rfl⟩ := List.exists_cons_of_ne_nil hne
  rw [List.cons_append, List.dropWhile_cons_of_neg]
  simp [isSlash_of_endsAuthority (h c (.head _))]

theorem IsHostText.forall_mem (h : IsHostText s) : ∀ c ∈ s, endsAuthority c = false ∧ c ≠ '@' := by
  intro c hc
  cases h with
  | name h =>
    obtain ⟨hend, hat, -⟩ := isHostChar_iff.1 (h c hc).1
    exact ⟨hend, hat⟩
  | bracketed h =>
    rcases List.mem_cons.1 hc with rfl | hc
    · decide
    · rcases List.mem_append.1 hc with hc | hc
      · obtain ⟨hend, hat, -⟩ := isHostChar_iff.1 (h c hc)
        exact ⟨hend, hat⟩
      · obtain rfl := List.mem_singleton.1 hc
        decide

theorem IsHostText.filter {p : Char → Bool} (h : IsHostText s) (hopen : p '[' = true) (hclose : p ']' = true) :
    IsHostText (s.filter p) := by
  cases h with
  | name h => exact .name fun c hc => h c (List.mem_filter.1 hc).1
  | bracketed h =>
    rw [List.filter_cons_of_pos hopen, List.filter_append, List.filter_cons_of_pos hclose, List.filter_nil]
    exact .bracketed fun c hc => h c (List.mem_filter.1 hc).1

theorem cutHost_brackets (h : ∀ c ∈ s, isHostChar c = true) (rest : List Char) :
    cutHost true (s ++ ']' :: rest) = ((s ++ ']' :: (cutHost false rest).1), (cutHost false rest).2) := by
  induction s with
  | nil => simp [cutHost]
  | cons c s ih =>
    obtain ⟨-, -, hopen, hclose⟩ := isHostChar_iff.1 (h c (.head _))
    rw [List.cons_append, cutHost, if_neg (by simp)]
    simp only [if_neg hopen, if_neg hclose]
    rw [ih fun d hd => h d (.tail _ hd)]
    rfl

/-- A host is cut before the colon of its port. -/
theorem IsHostText.cutHost_append (h : IsHostText s) (rest : List Char) :
    cutHost false (s ++ ':' :: rest) = (s, ':' :: rest) := by
  cases h with
  | name h =>
    induction s with
    | nil => simp [cutHost]
    | cons c s ih =>
      obtain ⟨hc, hcolon⟩ := h c (.head _)
      obtain ⟨-, -, hopen, hclose⟩ := isHostChar_iff.1 hc
      rw [List.cons_append, cutHost, if_neg (by simp [hcolon])]
      simp only [if_neg hopen, if_neg hclose]
      rw [ih fun d hd => h d (.tail _ hd)]
  | bracketed h =>
    -- colons count again only behind the bracket that closes
    rw [List.cons_append, cutHost, if_neg (by decide)]
    simp only [if_true]
    rw [List.append_assoc, List.singleton_append, cutHost_brackets h]
    simp [cutHost]

/-! ### Empty hosts -/

theorem isEmpty_of_map_eq_ok {α : Type} {x : Except UrlError α} {f : α → Host} {host : Host}
    (hf : ∀ a, (f a).isEmpty = false) (h : x.map f = .ok host) : host.isEmpty = false := by
  cases x with
  | error e => cases h
  | ok a =>
    obtain rfl := Except.ok.inj h
    exact hf a

/-- The host of a URL with a special scheme is not empty. -/
theorem isEmpty_of_readHost {host : Host} (hspecial : isSpecialScheme scheme = true)
    (h : readHost scheme s = .ok host) : host.isEmpty = false := by
  rw [readHost, if_pos hspecial] at h
  split at h
  · cases h
  · rw [Host.read.eq_def] at h
    split at h
    -- an address in brackets
    · rw [Host.readBracketed.eq_def] at h
      split at h
      · exact isEmpty_of_map_eq_ok (fun _ => rfl) h
      · cases h
    -- a name, or an address of four bytes
    · split at h
      · cases h
      · next name _ =>
        split at h
        · cases h
        · next hname =>
          split at h
          · exact isEmpty_of_map_eq_ok (fun _ => rfl) h
          · obtain rfl := Except.ok.inj h
            simpa [Host.isEmpty, String.isEmpty_iff] using hname

/-! ### Ports -/

/-- The port that a URL keeps: the one of its scheme is left out. -/
def portOf (scheme : String) (port : Nat) : Option Nat :=
  if some port = defaultPort? scheme then none else some port

theorem portOf_orElse (scheme : String) (port : Nat) :
    (portOf scheme port <|> defaultPort? scheme) = some port := by
  rw [portOf]
  split
  · next h => simpa using h.symm
  · rfl

/-- Digits behind a colon are the port, if it is not too great. -/
theorem readPort_digits (hdigits : ∀ c ∈ s, c.isDigit = true) (hne : s ≠ []) :
    readPort scheme (':' :: s) =
      if 65535 < Decimal.digitsValue s then .error .invalidPort
      else .ok (portOf scheme (Decimal.digitsValue s), []) := by
  have htake : s.takeWhile Char.isDigit = s := List.takeWhile_eq_self_iff.2 hdigits
  have hdrop : s.dropWhile Char.isDigit = [] := List.dropWhile_eq_nil_iff.2 hdigits
  have hempty : s.isEmpty = false := by simpa using hne
  have hvalue : s.foldl (fun n c => 10 * n + (c.toNat - '0'.toNat)) 0 = Decimal.digitsValue s := rfl
  rw [readPort]
  simp only [htake, hdrop, hempty, hvalue, portOf]
  by_cases hport : 65535 < Decimal.digitsValue s <;> simp [hport]

/-! ### Authorities -/

/-- A host with a port, as it is written: perhaps with a user name and a password before it. -/
structure Authority where
  credentials : Option (List Char)
  host : List Char
  digits : List Char
  credentials_open : ∀ cs ∈ credentials, ∀ c ∈ cs, endsAuthority c = false
  host_text : IsHostText host
  digits_ne_nil : digits ≠ []
  digits_isDigit : ∀ c ∈ digits, c.isDigit = true

namespace Authority

def credentialsText (a : Authority) : List Char :=
  a.credentials.elim [] fun cs => cs ++ ['@']

def text (a : Authority) : List Char :=
  a.credentialsText ++ (a.host ++ ':' :: a.digits)

/-- The port that the digits spell. -/
def port (a : Authority) : Nat := Decimal.digitsValue a.digits

variable (a : Authority)

theorem at_not_mem_digits : '@' ∉ a.digits := fun h => absurd (a.digits_isDigit _ h) (by decide)

theorem readPort_eq (scheme : String) : readPort scheme (':' :: a.digits) =
    if 65535 < a.port then .error .invalidPort else .ok (portOf scheme a.port, []) :=
  readPort_digits a.digits_isDigit a.digits_ne_nil

theorem forall_mem_text : ∀ c ∈ a.text, endsAuthority c = false := by
  intro c hc
  rw [text, credentialsText, List.mem_append, List.mem_append, List.mem_cons] at hc
  rcases hc with hc | hc | rfl | hc
  · cases hcredentials : a.credentials with
    | none => simp [hcredentials] at hc
    | some cs =>
      rw [hcredentials] at hc
      rcases List.mem_append.1 hc with hc | hc
      · exact a.credentials_open cs hcredentials c hc
      · obtain rfl := List.mem_singleton.1 hc
        decide
  · exact (a.host_text.forall_mem c hc).1
  · decide
  · exact endsAuthority_of_isDigit (a.digits_isDigit c hc)

/-- Credentials are cut off at the last sign for them. -/
theorem cutAtLast_text : Text.cutAtLast '@' a.text =
    a.credentials.map fun cs => (cs, a.host ++ ':' :: a.digits) := by
  have haddress : '@' ∉ a.host ++ ':' :: a.digits := by
    rw [List.mem_append, List.mem_cons]
    rintro (h | h | h)
    · exact (a.host_text.forall_mem _ h).2 rfl
    · exact absurd h (by decide)
    · exact a.at_not_mem_digits h
  rw [text, credentialsText]
  cases a.credentials with
  | none => exact Text.cutAtLast_eq_none.2 haddress
  | some cs =>
    change Text.cutAtLast '@' (cs ++ ['@'] ++ (a.host ++ ':' :: a.digits)) = _
    rw [List.append_assoc, List.singleton_append]
    exact Text.cutAtLast_append haddress cs

/-- Behind an authority the path is empty or begins with a slash. -/
theorem span_beforeTail (htail : ∀ c ∈ tail.head?, endsAuthority c = true) :
    (beforeTail tail).takeWhile (fun c => !isSlash true c) = [] ∧
      (beforeTail tail).dropWhile (fun c => !isSlash true c) = beforeTail tail := by
  cases tail with
  | nil => exact ⟨rfl, rfl⟩
  | cons c rest =>
    rcases endsAuthority_eq_true_iff.1 (htail c rfl) with rfl | rfl | rfl | rfl
    all_goals simp [beforeTail, isSlash]

/-- How an authority with a port is read. The port is looked at after the host, and credentials and what comes behind
the port do not matter to either. -/
theorem afterSlashes_eq (hspecial : isSpecialScheme scheme = true)
    (htail : ∀ c ∈ tail.head?, endsAuthority c = true) :
    afterSlashes scheme (a.text ++ tail) = (readHost scheme a.host).bind fun host =>
      if 65535 < a.port then .error .invalidPort
      else .ok ⟨scheme, (readCredentials (a.credentials.getD [])).1, (readCredentials (a.credentials.getD [])).2,
        some host, portOf scheme a.port, .segments (pathAfterAuthority scheme (beforeTail tail)),
        (readTail true tail).1, (readTail true tail).2⟩ := by
  have hmark : ∀ c ∈ a.text, (decide (c ≠ '?') && decide (c ≠ '#')) = true := by
    intro c hc
    obtain ⟨-, -, hquery, hfragment⟩ := endsAuthority_eq_false_iff.1 (a.forall_mem_text c hc)
    simp [hquery, hfragment]
  have hslash : ∀ c ∈ a.text, (!isSlash true c) = true := fun c hc => by
    simp [isSlash_of_endsAuthority (a.forall_mem_text c hc)]
  have hfront : beforeTail (a.text ++ tail) = a.text ++ beforeTail tail := beforeTail_append a.forall_mem_text tail
  have hbehind : readTail true (a.text ++ tail) = readTail true tail := by
    rw [readTail, readTail, List.dropWhile_append_of_pos hmark]
  obtain ⟨htake, hdrop⟩ := span_beforeTail htail
  have hauthority : (a.text ++ beforeTail tail).takeWhile (fun c => !isSlash true c) = a.text := by
    rw [List.takeWhile_append_of_pos hslash, htake, List.append_nil]
  have hpath : (a.text ++ beforeTail tail).dropWhile (fun c => !isSlash true c) = beforeTail tail := by
    rw [List.dropWhile_append_of_pos hslash, hdrop]
  have haddress : (a.host ++ ':' :: a.digits).isEmpty = false := by simp
  have htext : a.credentials = none → a.text = a.host ++ ':' :: a.digits := by
    intro hnone
    simp [text, credentialsText, hnone]
  rw [afterSlashes]
  simp only [hspecial, hfront, hbehind, hauthority, hpath, cutAtLast_text]
  -- with and without credentials, the address is the host with the port
  cases hcredentials : a.credentials
  case' none => rw [htext hcredentials]
  all_goals
    simp only [Option.map_none, Option.map_some, haddress, a.host_text.cutHost_append, readPort_eq]
    simp only [bind, Except.bind, Bool.and_false, Bool.false_and, Bool.false_eq_true, if_false]
    cases hhost : readHost scheme a.host with
    | error e => rfl
    | ok host =>
      simp only [isEmpty_of_readHost hspecial hhost, Bool.false_and, Bool.false_eq_true, if_false]
      by_cases hgreat : 65535 < a.port <;> simp [hgreat]

end Authority

/-! ### Cleaning -/

/-- The end of a text begins as before, if it is not dropped. -/
theorem head?_cleanEnd {p : Char → Prop} (hp : ∀ c, p c → counts c = true) (h : ∀ c ∈ s.head?, p c) :
    ∀ c ∈ (cleanEnd s).head?, p c := by
  have hprefix : (s.reverse.dropWhile fun c => c.toNat ≤ 0x20).reverse <+: s := by
    rw [← List.reverse_suffix, List.reverse_reverse]
    exact List.dropWhile_suffix _
  rw [cleanEnd]
  obtain ⟨dropped, hs⟩ := hprefix
  generalize (s.reverse.dropWhile fun c => c.toNat ≤ 0x20).reverse = kept at hs
  cases kept with
  | nil => simp
  | cons d rest =>
    have hd : p d := h d (by rw [← hs]; rfl)
    rw [List.filter_cons_of_pos (hp d hd)]
    intro c hc
    obtain rfl := Option.some.inj hc
    exact hd

/-- A scheme of the web is written in letters, in lower or in upper case. -/
theorem isAlpha_of_isWebScheme {written : List Char} {name : String} (hname : written.map Char.toLower = name.toList)
    (hweb : IsWebScheme name) : written ≠ [] ∧ ∀ c ∈ written, c.isAlpha = true := by
  have hletters : name.toList ≠ [] ∧ ∀ c ∈ name.toList, c.isAlpha = true := by
    rw [← List.all_iff_forall_prop]
    rcases hweb with rfl | rfl <;> decide
  rw [← hname] at hletters
  refine ⟨by simpa using hletters.1, fun c hc => ?_⟩
  rw [← Char.isAlpha_toLower_eq_isAlpha]
  exact hletters.2 _ (List.mem_map_of_mem hc)

theorem lt_toNat_of_isAlphanum {c : Char} (h : c.isAlphanum = true) : 0x20 < c.toNat := by
  simp only [Char.isAlphanum, Char.isAlpha, Char.isUpper, Char.isLower, Char.isDigit, Bool.or_eq_true,
    Bool.and_eq_true, decide_eq_true_eq, ge_iff_le, UInt32.le_iff_toNat_le] at h
  have hvalue : c.toNat = c.val.toNat := rfl
  simp at h
  omega

theorem lt_toNat_of_isDigit {c : Char} (h : c.isDigit = true) : 0x20 < c.toNat :=
  lt_toNat_of_isAlphanum (by simp [Char.isAlphanum, h])

theorem exists_concat_of_digits (hne : s ≠ []) (hdigits : ∀ c ∈ s, c.isDigit = true) (front : List Char) :
    ∃ init last, front ++ s = init ++ [last] ∧ last.isDigit = true := by
  refine ⟨front ++ s.dropLast, s.getLast hne, ?_, hdigits _ (List.getLast_mem hne)⟩
  rw [List.append_assoc, List.dropLast_concat_getLast]

/-- A text with a scheme of the web and a colon is read as what counts of the rest. -/
theorem parse_web {written front init : List Char} {last : Char} {name : String}
    (hname : written.map Char.toLower = name.toList) (hweb : IsWebScheme name) (hfront : front = init ++ [last])
    (hlast : 0x20 < last.toNat) (tail : List Char) :
    parse (String.ofList (written ++ ':' :: '/' :: '/' :: (front ++ tail))) =
      afterSlashes name ((front.filter counts ++ cleanEnd tail).dropWhile (isSlash true)) := by
  obtain ⟨hne, hletters⟩ := isAlpha_of_isWebScheme hname hweb
  obtain ⟨first, more, rfl⟩ := List.exists_cons_of_ne_nil hne
  have hcount : ∀ c ∈ first :: more, 0x20 < c.toNat := fun c hc =>
    lt_toNat_of_isAlphanum (by simp [Char.isAlphanum, hletters c hc])
  have hclean : clean (first :: more ++ ':' :: '/' :: '/' :: (front ++ tail)) =
      first :: more ++ ':' :: '/' :: '/' :: (front.filter counts ++ cleanEnd tail) := by
    have hparts : first :: (more ++ ':' :: '/' :: '/' :: front) =
        (first :: more ++ ':' :: '/' :: '/' :: init) ++ [last] := by
      simp [hfront]
    have hkept : (first :: more).filter counts = first :: more :=
      List.filter_eq_self.2 fun c hc => counts_of_lt (hcount c hc)
    have hcleaned := clean_append tail (hcount first (.head _)) hlast hparts
    rw [← List.cons_append, List.filter_append, hkept] at hcleaned
    simpa [counts] using hcleaned
  have hchars : (first :: more).all isSchemeChar = true := by
    rw [List.all_eq_true]
    exact fun c hc => by simp [isSchemeChar, Char.isAlphanum, hletters c hc]
  have hscheme : cutScheme (first :: more ++ ':' :: '/' :: '/' :: (front.filter counts ++ cleanEnd tail)) =
      some (name, '/' :: '/' :: (front.filter counts ++ cleanEnd tail)) := by
    rw [cutScheme_append (hletters first (.head _)) hchars, hname, String.ofList_toList]
  rw [parse, read, String.toList_ofList, hclean]
  simp only [hscheme, afterScheme, if_neg hweb.ne_file, if_pos hweb.isSpecial]
  rw [List.dropWhile_cons_of_pos rfl, List.dropWhile_cons_of_pos rfl]

namespace Authority

variable (a : Authority)

/-- What counts of an authority. -/
def kept : Authority where
  credentials := a.credentials.map (List.filter counts)
  host := a.host.filter counts
  digits := a.digits
  credentials_open cs hcs c hc := by
    obtain ⟨whole, hwhole, rfl⟩ := Option.map_eq_some_iff.1 hcs
    exact a.credentials_open whole hwhole c (List.mem_filter.1 hc).1
  host_text := a.host_text.filter (by decide) (by decide)
  digits_ne_nil := a.digits_ne_nil
  digits_isDigit := a.digits_isDigit

@[simp] theorem port_kept : a.kept.port = a.port := rfl

theorem text_kept : a.kept.text = a.text.filter counts := by
  have hdigits : a.digits.filter counts = a.digits := by
    refine List.filter_eq_self.2 fun c hc => counts_of_lt (lt_toNat_of_isDigit ?_)
    exact a.digits_isDigit c hc
  have hcolon : counts ':' = true := by decide
  have hat : counts '@' = true := by decide
  cases hcredentials : a.credentials <;>
    simp [text, credentialsText, kept, hcredentials, hdigits, hcolon, hat]

theorem text_ne_nil : a.text ≠ [] := by
  simp [text]

/-- A text with a scheme of the web before an authority is read as its authority is. -/
theorem parse_eq {written : List Char} {name : String} (hname : written.map Char.toLower = name.toList)
    (hweb : IsWebScheme name) (tail : List Char) :
    parse (String.ofList (written ++ ':' :: '/' :: '/' :: (a.text ++ tail))) =
      afterSlashes name (a.kept.text ++ cleanEnd tail) := by
  obtain ⟨init, last, htext, hlast⟩ := exists_concat_of_digits a.digits_ne_nil a.digits_isDigit
    (a.credentialsText ++ (a.host ++ [':']))
  replace htext : a.text = init ++ [last] := by
    rw [← htext, text]
    simp
  rw [parse_web hname hweb htext (lt_toNat_of_isDigit hlast), ← text_kept,
    dropWhile_isSlash_append a.kept.text_ne_nil a.kept.forall_mem_text]

/-- Requests go to the port that stands behind the host, and a URL that is read has segments. -/
theorem port_of_parse {written tail : List Char} {name : String} {u : Url}
    (hname : written.map Char.toLower = name.toList) (hweb : IsWebScheme name)
    (htail : ∀ c ∈ tail.head?, endsAuthority c = true)
    (h : parse (String.ofList (written ++ ':' :: '/' :: '/' :: (a.text ++ tail))) = .ok u) :
    u.scheme = name ∧ u.port = portOf name a.port ∧ ∃ segments, u.path = .segments segments := by
  have hend : ∀ c ∈ (cleanEnd tail).head?, endsAuthority c = true := by
    refine head?_cleanEnd (fun c hc => ?_) htail
    rcases endsAuthority_eq_true_iff.1 hc with rfl | rfl | rfl | rfl <;> decide
  rw [a.parse_eq hname hweb, a.kept.afterSlashes_eq hweb.isSpecial hend] at h
  cases hhost : readHost name a.kept.host with
  | error e =>
    rw [hhost] at h
    cases h
  | ok host =>
    rw [hhost, port_kept] at h
    simp only [Except.bind] at h
    split at h
    · cases h
    · obtain rfl := Except.ok.inj h
      exact ⟨rfl, rfl, _, rfl⟩

end Authority

end Url

theorem Locator.urlText_eq (scheme host : String) (port : Nat) :
    scheme ++ "://" ++ host ++ ":" ++ toString port ++ "/" =
      String.ofList (scheme.toList ++
        ':' :: '/' :: '/' :: (host.toList ++ ':' :: (toString port).toList ++ ['/'])) := by
  rw [← String.toList_inj]
  simp

/-- The URL of a host and a port: the host is read, and the port is kept unless it is the one of the scheme. -/
theorem Locator.urlOf_eq {scheme host : String} {port : Nat} (hweb : Url.IsWebScheme scheme)
    (htext : Url.IsHostText host.toList) (hcounts : ∀ c ∈ host.toList, Url.counts c = true) (hport : port ≤ 65535)
    {read : Host} (hread : Url.readHost scheme host.toList = .ok read) :
    urlOf scheme host port =
      .ok ⟨scheme, "", "", some read, Url.portOf scheme port, .segments [""], none, none⟩ := by
  let a : Url.Authority :=
    { credentials := none
      host := host.toList
      digits := (toString port).toList
      credentials_open := by simp
      host_text := htext
      digits_ne_nil := Decimal.toString_ne_nil port
      digits_isDigit := fun _ => Decimal.isDigit_of_mem_toString }
  have hvalue : a.port = port := Decimal.digitsValue_toString port
  have hauthority : a.text ++ ['/'] = host.toList ++ ':' :: (toString port).toList ++ ['/'] := rfl
  have hkept : a.kept.host = host.toList := List.filter_eq_self.2 hcounts
  have hend : ∀ c ∈ ['/'].head?, Url.endsAuthority c = true := by
    rintro c ⟨⟩
    decide
  have hpath : Url.pathAfterAuthority scheme (Url.beforeTail ['/']) = [""] := by
    rcases hweb with rfl | rfl <;> decide
  rw [urlOf, urlText_eq, ← hauthority, a.parse_eq hweb.map_toLower hweb, show Url.cleanEnd ['/'] = ['/'] by decide,
    a.kept.afterSlashes_eq hweb.isSpecial hend, hkept, hread]
  simp only [Except.bind, Url.Authority.port_kept, hvalue, Nat.not_lt.2 hport, if_false, hpath]
  rfl

end NodeTelemetry
