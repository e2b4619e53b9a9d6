import NodeTelemetry.Text.Cut
import NodeTelemetry.Url.Domain
import NodeTelemetry.Url.Percent

/-!
# Hosts

The host of a URL is a name or an address. A name whose last part is a number is an IPv4 address in
one to four parts, each decimal, hexadecimal behind `0x` or octal behind `0`, of which the last fills
all bytes that are left. An IPv6 address stands in brackets.

## Main definitions

* `Host.read`, `Host.readOpaque`: the host of a special URL, and of any other.
* `Host.text`: the written form.
-/

namespace NodeTelemetry

/-- Why a text is no URL. -/
inductive UrlError where
  | emptyHost
  | internationalDomain
  | invalidPort
  | invalidIpv4
  | invalidIpv6
  | invalidDomainCharacter
  | relativeWithoutBase
  | relativeWithOpaqueBase
  deriving DecidableEq, Repr

/-- The wording of an error. -/
def UrlError.message : UrlError → String
  | emptyHost => "empty host"
  | internationalDomain => "invalid international domain name"
  | invalidPort => "invalid port number"
  | invalidIpv4 => "invalid IPv4 address"
  | invalidIpv6 => "invalid IPv6 address"
  | invalidDomainCharacter => "invalid domain character"
  | relativeWithoutBase => "relative URL without a base"
  | relativeWithOpaqueBase => "relative URL with a cannot-be-a-base base"

/-- The host of a URL. -/
inductive Host where
  /-- A name, which may be empty where the scheme allows it. -/
  | domain (name : String)
  /-- An address of 32 bits. -/
  | ipv4 (address : Nat)
  /-- An address of eight pieces of 16 bits. -/
  | ipv6 (pieces : List Nat)
  deriving DecidableEq, Repr

namespace Host

open Text

/-! ### IPv4 -/

/-- The number that digits of a base spell, if all of them are digits of it. -/
def numberIn? (base : Nat) (digits : List Char) : Option Nat :=
  digits.foldlM (fun n c =>
    match Url.hexDigit? c with
    | some d => if d < base then some (base * n + d) else none
    | none => none) 0

/-- One part of an IPv4 address. -/
def ipv4Part? (s : List Char) : Option Nat :=
  match s with
  | [] => none
  | '0' :: 'x' :: rest | '0' :: 'X' :: rest => numberIn? 16 rest
  | '0' :: c :: rest => numberIn? 8 (c :: rest)
  | digits => numberIn? 10 digits

/-- Drops an empty part at the end. -/
def dropEmptyLast (parts : List (List Char)) : List (List Char) :=
  if parts.getLast? = some [] then parts.dropLast else parts

/-- Whether the last part of a name is a number, so that the name has to be an IPv4 address. -/
def endsInNumber (name : List Char) : Bool :=
  let parts := pieces '.' name
  let parts := if parts.length > 1 then dropEmptyLast parts else parts
  match parts.getLast? with
  | none => false
  | some last => (!last.isEmpty && last.all Char.isDigit) || (ipv4Part? last).isSome

/-- The address of a name whose last part is a number. -/
def readIpv4 (name : List Char) : Except UrlError Nat :=
  let parts := dropEmptyLast (pieces '.' name)
  match parts.mapM ipv4Part? with
  | none => .error .invalidIpv4
  | some numbers =>
    let heads := numbers.dropLast
    let last := numbers.getLastD 0
    if numbers.length ≤ 4 && heads.all (· < 256) && last < 1 <<< (8 * (4 - heads.length)) then
      .ok (heads.foldr (fun n rest => n * 16777216 + rest / 256) 0 + last)
    else .error .invalidIpv4

/-- The four bytes of an address with points between them. -/
def ipv4Text (address : Nat) : List Char :=
  let byte (i : Nat) : List Char := (toString ((address >>> (8 * i)) % 256)).toList
  byte 3 ++ '.' :: byte 2 ++ '.' :: byte 1 ++ '.' :: byte 0

/-! ### IPv6 -/

/-- One piece of an IPv6 address: one to four hexadecimal digits. -/
def ipv6Piece? (s : List Char) : Option Nat :=
  if s.isEmpty || s.length > 4 then none else numberIn? 16 s

/-- One byte of an IPv4 address at the end of an IPv6 address: decimal and without leading zeros. -/
def plainByte? (s : List Char) : Option Nat :=
  match s with
  | [] => none
  | '0' :: _ :: _ => none
  | digits =>
    match numberIn? 10 digits with
    | some n => if n < 256 then some n else none
    | none => none

/-- The pieces of a part of an IPv6 address without a gap. The last may be an IPv4 address, which makes two
pieces. -/
def ipv6Row? (s : List Char) : Option (List Nat) :=
  if s.isEmpty then some []
  else
    let parts := pieces ':' s
    let heads := parts.dropLast
    let last := parts.getLastD []
    let tail : Option (List Nat) :=
      if last.contains '.' then
        match (pieces '.' last).mapM plainByte? with
        | some [a, b, c, d] => some [a * 256 + b, c * 256 + d]
        | _ => none
      else (ipv6Piece? last).map fun n => [n]
    match heads.mapM ipv6Piece?, tail with
    | some hs, some t => some (hs ++ t)
    | _, _ => none

/-- The text before and after the first gap of two colons. -/
def cutGap : List Char → Option (List Char × List Char)
  | [] => none
  | ':' :: ':' :: rest => some ([], rest)
  | c :: rest => (cutGap rest).map fun p => (c :: p.1, p.2)

/-- The pieces of an IPv6 address without its brackets. A gap stands for at least one piece of zero. -/
def readIpv6 (s : List Char) : Except UrlError (List Nat) :=
  match cutGap s with
  | none =>
    match ipv6Row? s with
    | some row => if row.length = 8 then .ok row else .error .invalidIpv6
    | none => .error .invalidIpv6
  | some (before, after) =>
    if before.contains '.' then .error .invalidIpv6
    else
      match ipv6Row? before, ipv6Row? after with
      | some a, some b =>
        if a.length + b.length ≤ 7 then
          .ok (a ++ List.replicate (8 - a.length - b.length) 0 ++ b)
        else .error .invalidIpv6
      | _, _ => .error .invalidIpv6

/-- The length of the row of zeros at the front. -/
def zeroRow (ps : List Nat) : Nat := (ps.takeWhile (· == 0)).length

/-- The place and the length of the first longest row of zeros. -/
def longestZeroRow (ps : List Nat) : Nat × Nat :=
  (List.range ps.length).foldl (fun best i =>
    let n := zeroRow (ps.drop i)
    if n > best.2 then (i, n) else best) (0, 0)

/-- Pieces in hexadecimal with colons between them. -/
def ipv6RowText (ps : List Nat) : List Char :=
  [':'].intercalate (ps.map fun n => Nat.toDigits 16 n)

/-- The written form of an IPv6 address: the first longest row of at least two zeros is a gap. -/
def ipv6Text (ps : List Nat) : List Char :=
  let (start, count) := longestZeroRow ps
  if count < 2 then ipv6RowText ps
  else ipv6RowText (ps.take start) ++ ':' :: ':' :: ipv6RowText (ps.drop (start + count))

/-! ### Names -/

/-- The characters that no host of a URL with another scheme may hold. -/
def isForbiddenOpaque (c : Char) : Bool :=
  c == '\x00' || "\t\n\r #/:<>?@[\\]^|".toList.contains c

/-- The ASCII form of a name. -/
def readName (s : List Char) : Except UrlError (List Char) :=
  match (String.fromUTF8? ⟨(Url.decodeBytes s).toArray⟩).bind fun name =>
    Url.Domain.toAscii? name.toList with
  | none => .error .internationalDomain
  | some ascii => .ok ascii

/-- The address in brackets. -/
def readBracketed (rest : List Char) : Except UrlError Host :=
  if rest.getLast? = some ']' then (readIpv6 rest.dropLast).map .ipv6 else .error .invalidIpv6

/-- The host of a special URL. -/
def read (s : List Char) : Except UrlError Host :=
  match s with
  | '[' :: rest => readBracketed rest
  | s =>
    match readName s with
    | .error e => .error e
    | .ok name =>
      if name.isEmpty then .error .emptyHost
      else if endsInNumber name then (readIpv4 name).map .ipv4
      else .ok (.domain (String.ofList name))

/-- The host of a URL with another scheme: an IPv6 address, or a name that is kept as it is. -/
def readOpaque (s : List Char) : Except UrlError Host :=
  match s with
  | '[' :: rest => readBracketed rest
  | s =>
    if s.any isForbiddenOpaque then .error .invalidDomainCharacter
    else .ok (.domain (String.ofList (Url.encode Url.EncodeSet.controls s)))

/-- The written form of a host. -/
def text : Host → String
  | domain name => name
  | ipv4 address => String.ofList (ipv4Text address)
  | ipv6 pieces => String.ofList ('[' :: ipv6Text pieces ++ [']'])

/-- Whether the host is the empty name. -/
def isEmpty : Host → Bool
  | domain name => name.isEmpty
  | _ => false

end Host

end NodeTelemetry
