import NodeTelemetry.Proofs.Text.ByteOrder
import NodeTelemetry.Proofs.Text.Pieces
import NodeTelemetry.Proofs.Url.Authority

/-!
# Addresses as hosts

The text of an IPv4 address is read as that address. The text of an IPv6 address is read in brackets alone: without
them its first colon is taken for the one before the port, and what stands behind it is no port.

## Main definitions

* `Url.Domain.IsPlainName`: a name that is its own ASCII form.

## Main statements

* `Url.Domain.toAscii?_eq_self`: plain names are kept.
* `Host.read_ipv4Text`: the text of an IPv4 address is read as that address.
* `Host.of_readIpv6`: the text of an IPv6 address has a colon.
* `Locator.urlOf_ipv4`, `Locator.urlOf_ipv6`: the URL of an address and a port.
-/

namespace NodeTelemetry

/-! ### Lists of which every member has a value -/

/-- A function that may fail succeeds on a list with the values that it has on the members. -/
theorem mapM_eq_some_iff {α β : Type} {f : α → Option β} {as : List α} {bs : List β} :
    as.mapM f = some bs ↔ as.map f = bs.map some := by
  induction as generalizing bs with
  | nil => cases bs <;> simp
  | cons a as ih =>
    rw [List.mapM_cons, List.map_cons]
    constructor
    · intro h
      obtain ⟨b, hb, h⟩ := Option.bind_eq_some_iff.1 h
      obtain ⟨rest, hrest, h⟩ := Option.bind_eq_some_iff.1 h
      obtain rfl := Option.some.inj h
      rw [hb, ih.1 hrest, List.map_cons]
    · intro h
      cases bs with
      | nil => cases h
      | cons b bs =>
        obtain ⟨hb, hrest⟩ := List.cons.inj h
        rw [hb, ih.2 hrest]
        rfl

theorem mapM_eq_some_map {α β : Type} {f : α → Option β} {g : α → β} {as : List α}
    (h : ∀ a ∈ as, f a = some (g a)) : as.mapM f = some (as.map g) := by
  rw [mapM_eq_some_iff, List.map_map]
  exact List.map_congr_left h

theorem exists_eq_some_of_mapM {α β : Type} {f : α → Option β} {as : List α} {bs : List β}
    (h : as.mapM f = some bs) : ∀ a ∈ as, ∃ b, f a = some b := by
  intro a ha
  have hmem : f a ∈ bs.map some := mapM_eq_some_iff.1 h ▸ List.mem_map_of_mem ha
  obtain ⟨b, -, hb⟩ := List.mem_map.1 hmem
  exact ⟨b, hb.symm⟩

theorem length_of_mapM {α β : Type} {f : α → Option β} {as : List α} {bs : List β}
    (h : as.mapM f = some bs) : bs.length = as.length := by
  simpa using (congrArg List.length (mapM_eq_some_iff.1 h)).symm

/-! ### Digits -/

namespace Url

variable {c : Char}

theorem mem_map_range' {first count : Nat} (h : first ≤ c.toNat) (hlt : c.toNat < first + count) :
    c ∈ (List.range' first count).map Char.ofNat :=
  List.mem_map.2 ⟨c.toNat, List.mem_range'_1.2 ⟨h, hlt⟩, c.ofNat_toNat⟩

/-- The digits of decimal numbers. -/
def digits : List Char := "0123456789".toList

/-- The digits of hexadecimal numbers, in lower and in upper case. -/
def hexDigits : List Char := "0123456789abcdefABCDEF".toList

theorem mem_digits (h : c.isDigit = true) : c ∈ digits := by
  simp only [Char.isDigit, ge_iff_le, Bool.and_eq_true, decide_eq_true_eq] at h
  have hrow : (List.range' 48 10).map Char.ofNat ⊆ digits := by decide
  exact hrow (mem_map_range' h.1 (Nat.lt_succ_of_le h.2))

theorem mem_hexDigits (h : (hexDigit? c).isSome) : c ∈ hexDigits := by
  rw [hexDigit?] at h
  split at h
  · next hdigit =>
    have hsubset : digits ⊆ hexDigits := by decide
    exact hsubset (mem_digits hdigit)
  · split at h
    · next hletter =>
      simp only [Bool.and_eq_true, decide_eq_true_eq] at hletter
      have hrow : (List.range' 97 6).map Char.ofNat ⊆ hexDigits := by decide
      exact hrow (mem_map_range' hletter.1 (Nat.lt_succ_of_le hletter.2))
    · split at h
      · next hletter =>
        simp only [Bool.and_eq_true, decide_eq_true_eq] at hletter
        have hrow : (List.range' 65 6).map Char.ofNat ⊆ hexDigits := by decide
        exact hrow (mem_map_range' hletter.1 (Nat.lt_succ_of_le hletter.2))
      · cases h

/-! ### Plain names -/

variable {s : List Char}

/-- Bytes that are not encoded stand for themselves. -/
theorem decodeBytes_of_not_mem (h : '%' ∉ s) : decodeBytes s = s.flatMap String.utf8EncodeChar := by
  induction s with
  | nil => rfl
  | cons c s ih =>
    simp only [List.mem_cons, not_or] at h
    rw [decodeBytes, ih h.2, List.flatMap_cons]
    rintro a b rest rfl
    exact absurd rfl h.1

/-- The bytes of a text are read as that text. -/
theorem fromUTF8?_flatMap (s : List Char) :
    String.fromUTF8? ⟨(s.flatMap String.utf8EncodeChar).toArray⟩ = some (String.ofList s) := by
  have hbytes : (⟨(s.flatMap String.utf8EncodeChar).toArray⟩ : ByteArray) = s.utf8Encode := by
    rw [List.utf8Encode]
    exact ByteArray.ext (by simp)
  rw [hbytes, String.fromUTF8?, dif_pos ByteArray.isValidUTF8_utf8Encode]
  rfl

namespace Domain

/-- A name of lower case letters and other characters of ASCII that no label in Punycode is a part of. -/
structure IsPlainName (s : List Char) : Prop where
  isAscii : ∀ c ∈ s, isAscii c = true
  toLower : ∀ c ∈ s, c.toLower = c
  allowed : ∀ c ∈ s, isForbidden c = false
  unmarked : ∀ label ∈ Text.pieces '.' s, punycodeMark.isPrefixOf? label = none

/-- The characters of ASCII are not written from right to left. -/
theorem isRightward_ofChar {c : Char} (h : isAscii c = true) : (Text.Direction.ofChar c).isRightward = false := by
  have hlt : c.toNat < 0x80 := by simpa [isAscii] using h
  rw [Text.Direction.ofChar]
  simp only [if_pos hlt]
  split
  · rfl
  · split <;> rfl

/-- A plain name is its own ASCII form. -/
theorem toAscii?_eq_self (h : IsPlainName s) : toAscii? s = some s := by
  have hmeaning : s.mapM meaning? = some (s.map fun c => [c]) := by
    refine mapM_eq_some_map fun c hc => ?_
    have hlt : c.toNat < 0x80 := by simpa [isAscii] using h.isAscii c hc
    rw [meaning?]
    simp only [if_pos hlt, h.toLower c hc]
  have hflatten : (s.map fun c => [c]).flatten = s := by
    rw [← List.flatMap_def, List.flatMap_singleton']
  have hcompose : Text.compose s = s := by
    rw [Text.compose, if_pos]
    exact List.all_eq_true.2 fun c hc => h.isAscii c hc
  have hforbidden : s.any isForbidden = false := by
    rw [List.any_eq_false]
    exact fun c hc => by simp [h.allowed c hc]
  have hascii : ∀ label ∈ Text.pieces '.' s, ∀ c ∈ label, isAscii c = true := by
    intro label hlabel c hc
    by_cases hpoint : c = '.'
    · rw [hpoint]
      decide
    · exact h.isAscii c ((Text.mem_iff_pieces hpoint).2 ⟨label, hlabel, hc⟩)
  have hlabels : (Text.pieces '.' s).mapM Label.ofText? = some ((Text.pieces '.' s).map fun l => ⟨l, l⟩) := by
    refine mapM_eq_some_map fun label hlabel => ?_
    rw [Label.ofText?, h.unmarked label hlabel]
    exact if_pos (List.all_eq_true.2 (hascii label hlabel))
  have hdirections : directionsFit ((Text.pieces '.' s).map fun l => ⟨l, l⟩) = true := by
    rw [directionsFit, Bool.or_eq_true, Bool.not_eq_true', List.any_eq_false]
    left
    intro directions hmem
    obtain ⟨l, hl, rfl⟩ := List.mem_map.1 hmem
    obtain ⟨label, hlabel, rfl⟩ := List.mem_map.1 hl
    simpa using fun c hc => isRightward_ofChar (hascii label hlabel c hc)
  rw [toAscii?, hmeaning]
  simp only [Option.bind_eq_bind, Option.bind_some, hflatten, hcompose, hforbidden, Bool.false_eq_true,
    if_false, hlabels, hdirections, if_true, List.map_map, Function.comp_def, List.map_id']
  rw [Text.intercalate_pieces]

end Domain

end Url

namespace Host

open Url (isHostChar counts)

variable {s : List Char}

theorem readName_eq_self (h : Url.Domain.IsPlainName s) : readName s = .ok s := by
  have hpercent : '%' ∉ s := fun hmem => absurd (h.allowed _ hmem) (by decide)
  rw [readName, Url.decodeBytes_of_not_mem hpercent, Url.fromUTF8?_flatMap]
  simp only [Option.bind_some, String.toList_ofList, Url.Domain.toAscii?_eq_self h]

/-! ### IPv4 -/

theorem hexDigit?_of_isDigit {c : Char} (h : c.isDigit = true) : Url.hexDigit? c = some (c.toNat - '0'.toNat) := by
  rw [Url.hexDigit?, if_pos h]

theorem foldlM_ten (h : ∀ c ∈ s, c.isDigit = true) (n : Nat) :
    s.foldlM (fun n c =>
      match Url.hexDigit? c with
      | some d => if d < 10 then some (10 * n + d) else none
      | none => none) n = some (s.foldl (fun n c => 10 * n + (c.toNat - '0'.toNat)) n) := by
  induction s generalizing n with
  | nil => rfl
  | cons c s ih =>
    have hdigit := h c (.head _)
    have hvalue : c.toNat - '0'.toNat < 10 := by
      simp only [Char.isDigit, ge_iff_le, Bool.and_eq_true, decide_eq_true_eq, UInt32.le_iff_toNat_le] at hdigit
      have hzero : '0'.toNat = 48 := rfl
      have hnine : c.val.toNat ≤ 57 := hdigit.2
      have hnat : c.toNat = c.val.toNat := rfl
      omega
    rw [List.foldlM_cons, hexDigit?_of_isDigit hdigit, List.foldl_cons]
    simp only [if_pos hvalue]
    exact ih (fun d hd => h d (.tail _ hd)) _

theorem numberIn?_ten (h : ∀ c ∈ s, c.isDigit = true) : numberIn? 10 s = some (Decimal.digitsValue s) :=
  foldlM_ten h 0

/-- A number in decimal is read as that number, as it is written without a zero at the front. -/
theorem ipv4Part?_toString (n : Nat) : ipv4Part? (toString n).toList = some n := by
  have hnumber : numberIn? 10 (toString n).toList = some n := by
    rw [numberIn?_ten fun c hc => Decimal.isDigit_of_mem_toString hc, Decimal.digitsValue_toString]
  by_cases hzero : n = 0
  · rw [hzero]
    decide
  · have hhead := Decimal.head?_toString (n := n) (by omega)
    have hne := Decimal.toString_ne_nil n
    rw [ipv4Part?.eq_def]
    split
    · next h => exact absurd h hne
    · next h => exact absurd (by rw [h]; rfl) hhead
    · next h => exact absurd (by rw [h]; rfl) hhead
    · next h => exact absurd (by rw [h]; rfl) hhead
    · exact hnumber

/-- The numbers between the points of an address. -/
def bytesOf (address : Nat) : List Nat :=
  [address / 16777216 % 256, address / 65536 % 256, address / 256 % 256, address % 256]

theorem ipv4Text_eq (address : Nat) :
    ipv4Text address = ['.'].intercalate ((bytesOf address).map fun n => (toString n).toList) := by
  simp [ipv4Text, bytesOf, Nat.shiftRight_eq_div_pow, List.intercalate]

theorem isDigit_of_mem_byte {address : Nat} {p : List Char}
    (h : p ∈ (bytesOf address).map fun n => (toString n).toList) : p ≠ [] ∧ ∀ c ∈ p, c.isDigit = true := by
  obtain ⟨n, -, rfl⟩ := List.mem_map.1 h
  exact ⟨Decimal.toString_ne_nil n, fun c hc => Decimal.isDigit_of_mem_toString hc⟩

theorem pieces_ipv4Text (address : Nat) :
    Text.pieces '.' (ipv4Text address) = (bytesOf address).map fun n => (toString n).toList := by
  rw [ipv4Text_eq]
  refine Text.pieces_intercalate (by simp [bytesOf]) fun p hp hpoint => ?_
  exact absurd ((isDigit_of_mem_byte hp).2 _ hpoint) (by decide)

theorem dropEmptyLast_ipv4Text (address : Nat) : dropEmptyLast (Text.pieces '.' (ipv4Text address)) =
    (bytesOf address).map fun n => (toString n).toList := by
  have hlast : (toString (address % 256)).toList ≠ [] := Decimal.toString_ne_nil _
  rw [pieces_ipv4Text, dropEmptyLast, if_neg]
  simpa only [bytesOf, List.map_cons, List.map_nil, List.getLast?_cons_cons, List.getLast?_singleton,
    Option.some.injEq] using hlast

theorem mem_ipv4Text {address : Nat} {c : Char} (h : c ∈ ipv4Text address) : c ∈ '.' :: Url.digits := by
  by_cases hpoint : c = '.'
  · rw [hpoint]
    exact .head _
  · obtain ⟨p, hp, hc⟩ := (Text.mem_iff_pieces hpoint).1 h
    rw [pieces_ipv4Text] at hp
    exact .tail _ (Url.mem_digits ((isDigit_of_mem_byte hp).2 c hc))

theorem isPlainName_ipv4Text (address : Nat) : Url.Domain.IsPlainName (ipv4Text address) where
  isAscii c hc := by
    have hall : ∀ c ∈ '.' :: Url.digits, Url.Domain.isAscii c = true :=
      List.all_iff_forall_prop.1 (by decide)
    exact hall c (mem_ipv4Text hc)
  toLower c hc := by
    have hall : ∀ c ∈ '.' :: Url.digits, c.toLower = c :=
      List.all_iff_forall_prop.1 (by decide)
    exact hall c (mem_ipv4Text hc)
  allowed c hc := by
    have hall : ∀ c ∈ '.' :: Url.digits, Url.Domain.isForbidden c = false :=
      List.all_iff_forall_prop.1 (by decide)
    exact hall c (mem_ipv4Text hc)
  unmarked label hlabel := by
    rw [pieces_ipv4Text] at hlabel
    obtain ⟨hne, hdigits⟩ := isDigit_of_mem_byte hlabel
    obtain ⟨c, rest, rfl⟩ := List.exists_cons_of_ne_nil hne
    have hc : ('x' == c) = false := by
      rw [beq_eq_false_iff_ne]
      rintro rfl
      exact absurd (hdigits _ (.head _)) (by decide)
    simp [Url.Domain.punycodeMark, List.isPrefixOf?, hc]

/-- The bytes of an address at their places make up the address. -/
theorem foldr_bytesOf {address : Nat} (h : address < 4294967296) :
    (bytesOf address).dropLast.foldr (fun n rest => n * 16777216 + rest / 256) 0 + (bytesOf address).getLastD 0 =
      address := by
  -- the fold is taken apart with a name for its function, as the numbers are too great to compute with
  have hfold (f : Nat → Nat → Nat) (a b c d : Nat) :
      [a, b, c, d].dropLast.foldr f 0 + [a, b, c, d].getLastD 0 = f a (f b (f c 0)) + d := rfl
  rw [bytesOf, hfold]
  omega

theorem readIpv4_ipv4Text {address : Nat} (h : address < 4294967296) :
    readIpv4 (ipv4Text address) = .ok address := by
  have hnumbers : ((bytesOf address).map fun n => (toString n).toList).mapM ipv4Part? = some (bytesOf address) := by
    rw [mapM_eq_some_map (g := Decimal.digitsValue), List.map_map]
    · simp only [Function.comp_def, Decimal.digitsValue_toString, List.map_id']
    · intro p hp
      obtain ⟨n, -, rfl⟩ := List.mem_map.1 hp
      rw [ipv4Part?_toString, Decimal.digitsValue_toString]
  have hbytes : ∀ n ∈ bytesOf address, n < 256 := by
    simp [bytesOf, Nat.mod_lt]
  have hheads : (bytesOf address).dropLast.all (· < 256) = true :=
    List.all_eq_true.2 fun n hn => decide_eq_true (hbytes n (List.dropLast_subset _ hn))
  have hlast : (bytesOf address).getLastD 0 < 256 := hbytes _ (.tail _ (.tail _ (.tail _ (.head _))))
  rw [readIpv4]
  simp only [dropEmptyLast_ipv4Text, hnumbers]
  rw [if_pos, foldr_bytesOf h]
  simp only [hheads, Bool.and_true, Bool.and_eq_true, decide_eq_true_eq]
  exact ⟨Nat.le_refl 4, hlast⟩

theorem endsInNumber_ipv4Text (address : Nat) : endsInNumber (ipv4Text address) = true := by
  have hlast : (toString (address % 256)).toList.all Char.isDigit = true :=
    List.all_eq_true.2 fun c hc => Decimal.isDigit_of_mem_toString hc
  have hne : (toString (address % 256)).toList.isEmpty = false := by
    exact List.isEmpty_eq_false_iff.2 (Decimal.toString_ne_nil _)
  have hlength : 1 < (Text.pieces '.' (ipv4Text address)).length := by
    rw [pieces_ipv4Text, List.length_map]
    exact Nat.lt_of_sub_eq_succ rfl
  rw [endsInNumber]
  simp only [if_pos hlength, dropEmptyLast_ipv4Text, bytesOf, List.map_cons, List.map_nil,
    List.getLast?_cons_cons, List.getLast?_singleton, hlast, hne, Bool.not_false, Bool.and_true, Bool.true_or]

/-- The text of an address is read as that address. -/
theorem read_ipv4Text {address : Nat} (h : address < 4294967296) :
    read (ipv4Text address) = .ok (.ipv4 address) := by
  have hopen : ∀ rest, ipv4Text address ≠ '[' :: rest := by
    intro rest heq
    have hmem : '[' ∈ ipv4Text address := by
      rw [heq]
      exact .head _
    exact absurd (mem_ipv4Text hmem) (by decide)
  have hne : (ipv4Text address).isEmpty = false := by
    simp [ipv4Text]
  rw [read.eq_def]
  split
  · next rest heq => exact absurd heq (hopen rest)
  · rw [readName_eq_self (isPlainName_ipv4Text address)]
    simp only [hne, endsInNumber_ipv4Text, readIpv4_ipv4Text h, Bool.false_eq_true, if_false, if_true]
    rfl

/-! ### IPv6 -/

/-- A text that is made of pieces has the characters of its pieces, and the separator. -/
theorem forall_mem_of_pieces {sep : Char} {P : Char → Prop} (hsep : P sep)
    (h : ∀ p ∈ Text.pieces sep s, ∀ c ∈ p, P c) : ∀ c ∈ s, P c := by
  intro c hc
  by_cases heq : c = sep
  · rwa [heq]
  · obtain ⟨p, hp, hmem⟩ := (Text.mem_iff_pieces heq).1 hc
    exact h p hp c hmem

theorem numberIn?_eq_some {base n : Nat} (h : numberIn? base s = some n) : ∀ c ∈ s, c ∈ Url.hexDigits := by
  rw [numberIn?] at h
  generalize 0 = start at h
  induction s generalizing start with
  | nil => simp
  | cons c s ih =>
    rw [List.foldlM_cons] at h
    obtain ⟨next, hnext, h⟩ := Option.bind_eq_some_iff.1 h
    have hdigit : (Url.hexDigit? c).isSome := by
      cases hvalue : Url.hexDigit? c with
      | none => simp [hvalue] at hnext
      | some d => rfl
    intro d hd
    rcases List.mem_cons.1 hd with rfl | hd
    · exact Url.mem_hexDigits hdigit
    · exact ih next h d hd

def ipv6Chars : List Char := ':' :: '.' :: Url.hexDigits

theorem mem_ipv6Chars_of_numberIn? {base n : Nat} (h : numberIn? base s = some n) : ∀ c ∈ s, c ∈ ipv6Chars :=
  fun c hc => .tail _ (.tail _ (numberIn?_eq_some h c hc))

theorem mem_ipv6Chars_of_ipv6Piece? {n : Nat} (h : ipv6Piece? s = some n) : ∀ c ∈ s, c ∈ ipv6Chars := by
  rw [ipv6Piece?] at h
  split at h
  · cases h
  · exact mem_ipv6Chars_of_numberIn? h

theorem mem_ipv6Chars_of_plainByte? {n : Nat} (h : plainByte? s = some n) : ∀ c ∈ s, c ∈ ipv6Chars := by
  rw [plainByte?.eq_def] at h
  split at h
  · cases h
  · cases h
  · split at h
    · next hnumber => exact mem_ipv6Chars_of_numberIn? hnumber
    · cases h

/-- The last part of a row is one piece, or an IPv4 address of two. -/
theorem of_ipv6Tail? {tail : List Nat}
    (h : (if s.contains '.' then
        match (Text.pieces '.' s).mapM plainByte? with
        | some [a, b, c, d] => some [a * 256 + b, c * 256 + d]
        | _ => none
      else (ipv6Piece? s).map fun n => [n]) = some tail) :
    (∀ c ∈ s, c ∈ ipv6Chars) ∧ tail.length ≤ 2 := by
  split at h
  · split at h
    · next hbytes =>
      obtain rfl := Option.some.inj h
      have hpoint : '.' ∈ ipv6Chars := .tail _ (.head _)
      refine ⟨forall_mem_of_pieces hpoint fun p hp => ?_, Nat.le_refl 2⟩
      exact (exists_eq_some_of_mapM hbytes p hp).elim fun _ => mem_ipv6Chars_of_plainByte?
    · cases h
  · obtain ⟨n, hpiece, rfl⟩ := Option.map_eq_some_iff.1 h
    exact ⟨mem_ipv6Chars_of_ipv6Piece? hpiece, Nat.le_succ 1⟩

/-- A row without a gap has the characters of an address, and one piece for each of its parts or one more. -/
theorem of_ipv6Row? {row : List Nat} (h : ipv6Row? s = some row) :
    (∀ c ∈ s, c ∈ ipv6Chars) ∧ row.length ≤ (Text.pieces ':' s).length + 1 := by
  rw [ipv6Row?] at h
  split at h
  · next hempty =>
    obtain rfl := Option.some.inj h
    obtain rfl := List.isEmpty_iff.1 hempty
    simp
  · obtain ⟨front, last, hpieces⟩ : ∃ front last, Text.pieces ':' s = front ++ [last] :=
      ⟨_, _, (List.dropLast_concat_getLast (Text.pieces_ne_nil ':' s)).symm⟩
    simp only [hpieces, List.dropLast_concat, List.getLastD_concat] at h
    split at h
    · next heads tail hheads htail =>
      obtain rfl := Option.some.inj h
      have hfront : ∀ p ∈ front, ∀ c ∈ p, c ∈ ipv6Chars := fun p hp =>
        (exists_eq_some_of_mapM hheads p hp).elim fun _ => mem_ipv6Chars_of_ipv6Piece?
      obtain ⟨hlast, htwo⟩ := of_ipv6Tail? htail
      have hcolon : ':' ∈ ipv6Chars := .head _
      refine ⟨forall_mem_of_pieces hcolon fun p hp => ?_, ?_⟩
      · rw [hpieces] at hp
        rcases List.mem_append.1 hp with hp | hp
        · exact hfront p hp
        · obtain rfl := List.mem_singleton.1 hp
          exact hlast
      · rw [hpieces, List.length_append, List.length_append, length_of_mapM hheads]
        exact Nat.add_le_add_left htwo _
    · cases h

theorem cutGap_eq_some {before after : List Char} (h : cutGap s = some (before, after)) :
    s = before ++ ':' :: ':' :: after := by
  induction s using cutGap.induct generalizing before with
  | case1 => cases h
  | case2 rest =>
    obtain ⟨rfl, rfl⟩ := Prod.mk.inj (Option.some.inj h)
    rfl
  | case3 c rest hgap ih =>
    rw [cutGap.eq_3 _ _ hgap] at h
    obtain ⟨⟨front, back⟩, hcut, heq⟩ := Option.map_eq_some_iff.1 h
    obtain ⟨rfl, rfl⟩ := Prod.mk.inj heq
    rw [ih hcut]
    rfl

/-- The text of an address has a colon, and no characters but those of numbers and addresses. -/
theorem of_readIpv6 {pieces : List Nat} (h : readIpv6 s = .ok pieces) : ':' ∈ s ∧ ∀ c ∈ s, c ∈ ipv6Chars := by
  rw [readIpv6] at h
  split at h
  -- without a gap there are eight pieces
  · split at h
    · next row hrow =>
      split at h
      · next height =>
        obtain ⟨hchars, hlength⟩ := of_ipv6Row? hrow
        refine ⟨Decidable.byContradiction fun hcolon => ?_, hchars⟩
        -- a text without a colon is one part, which makes two pieces at most
        rw [Text.pieces_of_not_mem hcolon, height] at hlength
        simp at hlength
      · cases h
    · cases h
  · next before after hcut =>
    obtain rfl := cutGap_eq_some hcut
    split at h
    · cases h
    · split at h
      · next hbefore hafter =>
        refine ⟨List.mem_append_right _ (.head _), fun c hc => ?_⟩
        rcases List.mem_append.1 hc with hc | hc
        · exact (of_ipv6Row? hbefore).1 c hc
        · rcases List.mem_cons.1 hc with rfl | hc
          · exact .head _
          · rcases List.mem_cons.1 hc with rfl | hc
            · exact .head _
            · exact (of_ipv6Row? hafter).1 c hc
      · cases h

end Host

/-! ### URLs of addresses -/

namespace Url

variable {scheme : String} {s : List Char}

/-- What begins with a colon behind a colon and perhaps digits is no port. -/
theorem readPort_of_colon_mem (h : ∀ c ∈ s, c ≠ '\\') (hcolon : ':' ∈ s) :
    readPort scheme (':' :: s) = .error .invalidPort := by
  have hafter : s.dropWhile Char.isDigit ≠ [] := by
    intro hnil
    exact absurd (List.dropWhile_eq_nil_iff.1 hnil _ hcolon) (by decide)
  obtain ⟨c, rest, hrest⟩ := List.exists_cons_of_ne_nil hafter
  have hmem : c ∈ s := (List.dropWhile_suffix Char.isDigit).subset (by simp [hrest])
  rw [readPort]
  simp only [hrest, List.isEmpty_cons, List.head?_cons, Option.some.injEq, h c hmem, decide_false, Bool.or_false,
    Bool.not_false, Bool.or_true, if_true]

theorem endsAuthority_of_mem_address (hchars : ∀ c ∈ s, isHostChar c = true) {digits : List Char}
    (hdigits : ∀ c ∈ digits, c.isDigit = true) : ∀ c ∈ s ++ ':' :: digits, endsAuthority c = false ∧ c ≠ '@' := by
  intro c hc
  rcases List.mem_append.1 hc with hc | hc
  · obtain ⟨hend, hat, -⟩ := isHostChar_iff.1 (hchars c hc)
    exact ⟨hend, hat⟩
  · rcases List.mem_cons.1 hc with rfl | hc
    · decide
    · refine ⟨endsAuthority_of_isDigit (hdigits c hc), ?_⟩
      rintro rfl
      exact absurd (hdigits _ hc) (by decide)

/-- A host with a colon and without brackets is not read before a port. -/
theorem exists_afterSlashes_eq_error (hspecial : isSpecialScheme scheme = true)
    (hchars : ∀ c ∈ s, isHostChar c = true) (hcolon : ':' ∈ s) {digits : List Char}
    (hdigits : ∀ c ∈ digits, c.isDigit = true) :
    ∃ e, afterSlashes scheme (s ++ ':' :: digits ++ ['/']) = .error e := by
  have haddress := endsAuthority_of_mem_address hchars hdigits
  have hfront : beforeTail (s ++ ':' :: digits ++ ['/']) = s ++ ':' :: digits ++ ['/'] :=
    beforeTail_append (fun c hc => (haddress c hc).1) _
  have hauthority : (s ++ ':' :: digits ++ ['/']).takeWhile (fun c => !isSlash true c) = s ++ ':' :: digits := by
    rw [List.takeWhile_append_of_pos fun c hc => by simp [isSlash_of_endsAuthority (haddress c hc).1]]
    simp [isSlash]
  have hat : Text.cutAtLast '@' (s ++ ':' :: digits) = none :=
    Text.cutAtLast_eq_none.2 fun h => (haddress _ h).2 rfl
  -- the host ends at its first colon, and what stands there in the place of a port has another one
  obtain ⟨before, after, hs, hbefore⟩ := List.eq_append_cons_of_mem hcolon
  have hhost : IsHostText before := .name fun c hc => by
    refine ⟨hchars c (by rw [hs]; exact List.mem_append_left _ hc), ?_⟩
    rintro rfl
    exact hbefore hc
  have hcut : cutHost false (s ++ ':' :: digits) = (before, ':' :: (after ++ ':' :: digits)) := by
    rw [hs, List.append_assoc, List.cons_append, hhost.cutHost_append]
  have hport : readPort scheme (':' :: (after ++ ':' :: digits)) = .error .invalidPort := by
    refine readPort_of_colon_mem (fun c hc => ?_) (by simp)
    have hmem : c ∈ s ++ ':' :: digits := by
      rw [hs, List.append_assoc, List.cons_append]
      exact List.mem_append_right _ (.tail _ hc)
    exact (endsAuthority_eq_false_iff.1 (haddress c hmem).1).2.1
  rw [afterSlashes]
  simp only [hspecial, hfront, hauthority, hat, hcut, hport]
  cases hread : readHost scheme before with
  | error e => exact ⟨e, rfl⟩
  | ok host =>
    refine ⟨.invalidPort, ?_⟩
    simp [bind, Except.bind, isEmpty_of_readHost hspecial hread]

end Url

theorem Locator.urlOf_ipv4 {scheme : String} {address port : Nat} (hweb : Url.IsWebScheme scheme)
    (haddress : address < 4294967296) (hport : port ≤ 65535) :
    urlOf scheme (Host.ipv4 address).text port =
      .ok ⟨scheme, "", "", some (.ipv4 address), Url.portOf scheme port, .segments [""], none, none⟩ := by
  have htext : (Host.ipv4 address).text.toList = Host.ipv4Text address := String.toList_ofList
  have hne : (Host.ipv4Text address).isEmpty = false := by
    simp [Host.ipv4Text]
  refine urlOf_eq hweb ?_ ?_ hport ?_
  · rw [htext]
    refine .name fun c hc => ?_
    have hall : ∀ c ∈ '.' :: Url.digits, Url.isHostChar c = true ∧ c ≠ ':' :=
      List.all_iff_forall_prop.1 (by decide)
    exact hall c (Host.mem_ipv4Text hc)
  · rw [htext]
    intro c hc
    have hall : ∀ c ∈ '.' :: Url.digits, Url.counts c = true :=
      List.all_iff_forall_prop.1 (by decide)
    exact hall c (Host.mem_ipv4Text hc)
  · rw [htext, Url.readHost, if_pos hweb.isSpecial, hne]
    exact Host.read_ipv4Text haddress

/-- The text of an IPv6 address and a port make no URL. -/
theorem Locator.urlOf_ipv6 {scheme ip : String} {pieces : List Nat} (hweb : Url.IsWebScheme scheme)
    (hread : Host.readIpv6 ip.toList = .ok pieces) (port : Nat) :
    ∃ e, urlOf scheme ip port =
      .error (.invalidUrl (scheme ++ "://" ++ ip ++ ":" ++ toString port ++ "/") e) := by
  obtain ⟨hcolon, hchars⟩ := Host.of_readIpv6 hread
  have hall : ∀ c ∈ Host.ipv6Chars, Url.isHostChar c = true ∧ Url.counts c = true :=
    List.all_iff_forall_prop.1 (by decide)
  have hhost : ∀ c ∈ ip.toList, Url.isHostChar c = true := fun c hc => (hall c (hchars c hc)).1
  have hdigits : ∀ c ∈ (toString port).toList, c.isDigit = true := fun c => Decimal.isDigit_of_mem_toString
  have hcounts : (ip.toList ++ ':' :: (toString port).toList).filter Url.counts =
      ip.toList ++ ':' :: (toString port).toList := by
    refine List.filter_eq_self.2 fun c hc => ?_
    rcases List.mem_append.1 hc with hc | hc
    · exact (hall c (hchars c hc)).2
    · rcases List.mem_cons.1 hc with rfl | hc
      · decide
      · exact Url.counts_of_lt (Url.lt_toNat_of_isDigit (hdigits c hc))
  obtain ⟨init, last, hfront, hlast⟩ :=
    Url.exists_concat_of_digits (Decimal.toString_ne_nil port) hdigits (ip.toList ++ [':'])
  rw [List.append_assoc, List.singleton_append] at hfront
  obtain ⟨e, he⟩ := Url.exists_afterSlashes_eq_error hweb.isSpecial hhost hcolon hdigits
  refine ⟨e, ?_⟩
  rw [urlOf, urlText_eq, Url.parse_web hweb.map_toLower hweb hfront (Url.lt_toNat_of_isDigit hlast), hcounts,
    show Url.cleanEnd ['/'] = ['/'] by decide,
    Url.dropWhile_isSlash_append (by simp) fun c hc => (Url.endsAuthority_of_mem_address hhost hdigits c hc).1, he]
  rfl

end NodeTelemetry
